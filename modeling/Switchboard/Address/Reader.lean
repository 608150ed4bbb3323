import Switchboard.Address.Host

/-!
Reading addresses, as the standard for URLs has it: a text is mended where that is customary, and
refused where no address can be made of it.
-/

namespace Switchboard.Address

/-- Controls and spaces at the ends of a text do not count. -/
def isEdge (c : Char) : Bool := c.toNat ≤ 0x20

def dropEdgeEnd : List Char → List Char
  | [] => []
  | c :: cs =>
    match dropEdgeEnd cs with
    | [] => if isEdge c then [] else [c]
    | d :: ds => c :: d :: ds

/-- The text that counts: without its edges, and without tabs and line breaks inside. -/
def essence (cs : List Char) : List Char :=
  (dropEdgeEnd (cs.dropWhile isEdge)).filter fun c => c != '\t' && c != '\n' && c != '\r'

def isLetter (c : Char) : Bool := ('a' ≤ c && c ≤ 'z') || ('A' ≤ c && c ≤ 'Z')

def isSchemeChar (c : Char) : Bool :=
  isLetter c || ('0' ≤ c && c ≤ '9') || c == '+' || c == '-' || c == '.'

def small (c : Char) : Char :=
  if 'A' ≤ c ∧ c ≤ 'Z' then Char.ofNat (c.toNat + 0x20) else c

def scheme? (cs : List Char) : Option (String × List Char) :=
  if cs.head?.any isLetter then
    match cs.dropWhile isSchemeChar with
    | ':' :: rest => some (String.ofList ((cs.takeWhile isSchemeChar).map small), rest)
    | _ => none
  else none

def isSlash (special : Bool) (c : Char) : Bool := c == '/' || (special && c == '\\')

def endsPart (special : Bool) (c : Char) : Bool := isSlash special c || c == '?' || c == '#'

def splitCredentials (special : Bool) (cs : List Char) : Option (List Char × List Char) :=
  let authority := cs.takeWhile (!endsPart special ·)
  let after := (authority.reverse.takeWhile (· != '@')).reverse
  let size := authority.length - after.length
  if size = 0 then none else some (cs.take (size - 1), cs.drop size)

def readCredentials (cs : List Char) : Credentials :=
  let written := fun part => String.ofList (percentEncode offCredentials part)
  ⟨written (cs.takeWhile (· != ':')), written ((cs.dropWhile (· != ':')).drop 1)⟩

/-- The text of a host and what follows it. A colon in brackets is part of the host. -/
def splitHost (special bracketed : Bool) : List Char → List Char × List Char
  | [] => ([], [])
  | c :: cs =>
    if endsPart special c || (c == ':' && !bracketed) then ([], c :: cs)
    else
      let (host, rest) := splitHost special (c == '[' || (bracketed && c != ']')) cs
      (c :: host, rest)

def isDigit (c : Char) : Bool := '0' ≤ c && c ≤ '9'

/-- Reads a port, if there is one. The scheme's own port counts as none. -/
def readPort (scheme : String) : List Char → Except Fault (Option Nat × List Char)
  | ':' :: cs =>
    let digits := cs.takeWhile isDigit
    let rest := cs.dropWhile isDigit
    let number := (digitsIn 10 digits).getD 0
    if 0xFFFF < number ∨ rest.head?.any (fun c => !(['/', '\\', '?', '#'].contains c)) then
      .error .badPort
    else if digits = [] ∨ defaultPort scheme = some number then .ok (none, rest)
    else .ok (some number, rest)
  | cs => .ok (none, cs)

/-- Reads an authority. A special scheme needs a host, and so do credentials and a port. -/
def readAuthority (scheme : String) (cs : List Char) : Except Fault (Authority × List Char) := do
  let special := isSpecial scheme
  let (user, cs) ← match splitCredentials special cs with
    | none => pure (({} : Credentials), cs)
    | some ([], rest) =>
      if rest.head?.any (endsPart special) then throw .emptyHost else pure ({}, rest)
    | some (before, rest) => pure (readCredentials before, rest)
  let (name, cs) := splitHost special false cs
  if name = [] ∧ (special ∨ cs.head? = some ':' ∨ user ≠ {}) then throw .emptyHost
  let host ← if special then readHost name else readForeignHost name
  let (port, cs) ← readPort scheme cs
  return (⟨user, host, port⟩, cs)

def goesUp (step : List Char) : Bool :=
  [['.', '.'], ['.', '%', '2', 'e'], ['%', '2', 'e', '.'], ['%', '2', 'e', '%', '2', 'e']].contains
    (step.map small)

def stays (step : List Char) : Bool := [['.'], ['%', '2', 'e']].contains (step.map small)

/-- A letter with a colon or a bar names a drive. -/
def isDrive : List Char → Bool
  | [c, mark] => isLetter c && (mark == ':' || mark == '|')
  | _ => false

/-- Goes one step up, given the steps last first. Nothing is above a drive. -/
def goUp : List (List Char) → List (List Char)
  | [] => []
  | step :: steps => if isDrive step then step :: steps else steps

/-- Walks along steps. Takes those before, last first. A last step that is no step of its own leaves
an empty one. -/
def walk (before : List (List Char)) : List (List Char) → List (List Char)
  | [] => before.reverse
  | step :: steps =>
    let ending := if steps = [] then [[]] else []
    if goesUp step then walk (ending ++ goUp before) steps
    else if stays step then walk (ending ++ before) steps
    else walk (step :: before) steps

def steps (special : Bool) (cs : List Char) : List (List Char) :=
  walk [] ((splitAt (isSlash special) cs).map (percentEncode offPath))

def readPath (special : Bool) (cs : List Char) : List (List Char) × List Char :=
  (steps special (cs.takeWhile fun c => c != '?' && c != '#'),
    cs.dropWhile fun c => c != '?' && c != '#')

def pathOf (list : List (List Char)) : Path := .steps (list.map String.ofList)

/-- Reads the path after an authority. Only a special scheme has a path when none is given. -/
def pathAfter (special : Bool) (cs : List Char) : Path × List Char :=
  match cs with
  | c :: rest =>
    if isSlash special c then
      let (list, rest) := readPath special rest
      (pathOf list, rest)
    else if !special && (c == '?' || c == '#') then (.steps [], cs)
    else
      let (list, rest) := readPath special cs
      (pathOf list, rest)
  | [] => (.steps (if special then [""] else []), [])

def readTrailer (special : Bool) (cs : List Char) : Option String × Option String :=
  let fragment := fun (cs : List Char) => match cs with
    | '#' :: rest => some (String.ofList (percentEncode offFragment rest))
    | _ => none
  match cs with
  | '?' :: rest =>
    let off := if special then offSpecialQuery else offQuery
    (some (String.ofList (percentEncode off (rest.takeWhile (· != '#')))),
      fragment (rest.dropWhile (· != '#')))
  | cs => (none, fragment cs)

/-- Drops empty steps before the others, and writes drives with a colon. -/
def fileSteps (list : List (List Char)) : List (List Char) :=
  let kept := match list.dropWhile (· == []) with
    | [] => [[]]
    | kept => kept
  kept.map fun step => if isDrive step then step.take 1 ++ [':'] else step

/-- Reads the host and path of a file. The local host is no host, and neither is a drive. -/
def readFile (cs : List Char) : Except Fault (Address.Host × Path × List Char) := do
  let (name, rest) := match cs with
    | a :: b :: cs' =>
      if isSlash true a && isSlash true b then
        let name := cs'.takeWhile (!endsPart true ·)
        if isDrive name then ([], cs') else (name, cs'.drop name.length)
      else ([], cs)
    | cs => ([], cs)
  let host ← if name = [] then pure (.name "") else readHost name
  let host := if host = .name "localhost" then .name "" else host
  let (list, rest) := readPath true rest
  return (host, pathOf (fileSteps list), rest)

def readPlace (scheme : String) (cs : List Char) :
    Except Fault (Option Authority × Path × List Char) := do
  let special := isSpecial scheme
  if scheme = "file" then
    let (host, path, rest) ← readFile cs
    return (some ⟨{}, host, none⟩, path, rest)
  else if special then
    let (authority, rest) ← readAuthority scheme (cs.dropWhile (isSlash true))
    let (path, rest) := pathAfter special rest
    return (some authority, path, rest)
  else match cs with
    | '/' :: '/' :: cs =>
      let (authority, rest) ← readAuthority scheme cs
      let (path, rest) := pathAfter special rest
      return (some authority, path, rest)
    | '/' :: cs =>
      let (list, rest) := readPath special cs
      return (none, pathOf list, rest)
    | cs =>
      let isText := fun c => c != '?' && c != '#'
      let text := percentEncode isControl (cs.takeWhile isText)
      return (none, .opaqueText (String.ofList text), cs.dropWhile isText)

def ofChars (cs : List Char) : Except Fault Address :=
  match scheme? (essence cs) with
  | none => .error .noScheme
  | some (scheme, rest) => do
    let (authority, path, rest) ← readPlace scheme rest
    let (query, fragment) := readTrailer (isSpecial scheme) rest
    return { scheme, authority, path, query, fragment }

def parse (s : String) : Except Fault Address := ofChars s.toList

end Switchboard.Address
