namespace Switchboard

namespace Address

inductive Host
  | name (text : String)
  | short (number : Nat)
  | long (pieces : List Nat)
  deriving DecidableEq

structure Credentials where
  user : String := ""
  password : String := ""
  deriving DecidableEq

/-- Whose authority an address is under. The port is left out when it is the scheme's own. -/
structure Authority where
  credentials : Credentials
  host : Host
  port : Option Nat
  deriving DecidableEq

inductive Path
  | steps (steps : List String)
  | opaqueText (text : String)
  deriving DecidableEq

def defaultPort (scheme : String) : Option Nat :=
  if scheme = "ws" ∨ scheme = "http" then some 80
  else if scheme = "wss" ∨ scheme = "https" then some 443
  else if scheme = "ftp" then some 21
  else none

/-- The special schemes always have a host or are about files, and take a backslash for a slash. -/
def isSpecial (scheme : String) : Bool := (defaultPort scheme).isSome || scheme == "file"

inductive Fault
  | noScheme
  | emptyHost
  | badName
  | badCharacter
  | badPort
  | badShort
  | badLong
  deriving DecidableEq

def Fault.message : Fault → String
  | .noScheme => "relative URL without a base"
  | .emptyHost => "empty host"
  | .badName => "invalid international domain name"
  | .badCharacter => "invalid domain character"
  | .badPort => "invalid port number"
  | .badShort => "invalid IPv4 address"
  | .badLong => "invalid IPv6 address"

end Address

structure Address where
  scheme : String
  authority : Option Address.Authority
  path : Address.Path
  query : Option String
  fragment : Option String
  deriving DecidableEq

namespace Address

def hexText (n : Nat) : String := String.ofList (Nat.toDigits 16 n)

/-- The first longest run of zeros, as its start and length. A lone zero is no run. -/
def longestZeros (pieces : List Nat) : Option (Nat × Nat) :=
  let runAt := fun i => (i, ((pieces.drop i).takeWhile (· == 0)).length)
  let best := fun (a b : Nat × Nat) => if a.2 < b.2 then b else a
  let found := ((List.range pieces.length).map runAt).foldl best (0, 1)
  if 1 < found.2 then some found else none

def pieceText (pieces : List Nat) : String := ":".intercalate (pieces.map hexText)

def Host.text : Host → String
  | .name text => text
  | .short n =>
    ".".intercalate ([n / 0x1000000, n / 0x10000 % 0x100, n / 0x100 % 0x100, n % 0x100].map toString)
  | .long pieces =>
    match longestZeros pieces with
    | some (start, length) =>
      "[" ++ pieceText (pieces.take start) ++ "::" ++ pieceText (pieces.drop (start + length)) ++ "]"
    | none => "[" ++ pieceText pieces ++ "]"

def Credentials.text (c : Credentials) : String :=
  if c.user = "" ∧ c.password = "" then ""
  else c.user ++ (if c.password = "" then "" else ":" ++ c.password) ++ "@"

def Authority.text (a : Authority) : String :=
  a.credentials.text ++ a.host.text ++
    match a.port with
    | some port => ":" ++ toString port
    | none => ""

def Path.text : Path → String
  | .steps list => String.join (list.map ("/" ++ ·))
  | .opaqueText text => text

/-- Steps that begin with an empty one look like an authority. -/
def Path.feignsAuthority : Path → Bool
  | .steps ("" :: _ :: _) => true
  | _ => false

/-- The address as it is written. A dot goes before a path that would pass for an authority where
there is none. -/
def text (a : Address) : String :=
  let path := a.path.text
  let place := match a.authority with
    | some authority => "//" ++ authority.text ++ path
    | none => if a.path.feignsAuthority then "/." ++ path else path
  let query := match a.query with
    | some q => "?" ++ q
    | none => ""
  let fragment := match a.fragment with
    | some f => "#" ++ f
    | none => ""
  a.scheme ++ ":" ++ place ++ query ++ fragment

def port? (a : Address) : Option Nat :=
  (a.authority.bind (·.port)) <|> defaultPort a.scheme

end Address

end Switchboard
