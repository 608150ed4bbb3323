import Switchboard.Hub.Call

/-!
The command line: options, then what is asked of a hub or of an instance. What is not given on the
command line is taken from the environment, and has a default otherwise.
-/

namespace Switchboard.Command

inductive Order
  | hub (call : Hub.ControlCall)
  | member (suffix : String) (call : Hub.InstanceCall)
  deriving DecidableEq

/-- A command line that was understood: where the hub is, how many seconds to wait for an answer, and
the order. -/
structure Invocation where
  endpoint : Hub.Endpoint
  patience : Nat
  order : Order
  deriving DecidableEq

inductive Halt
  | misuse
  | version
  | help
  deriving DecidableEq

structure Options where
  host : Option String := none
  port : Option Nat := none
  verbose : Option Bool := none
  patience : Option Nat := none
  deriving DecidableEq

def digits : List Char → Option Nat
  | [] => none
  | cs => cs.foldlM (fun n c => if '0' ≤ c ∧ c ≤ '9' then some (n * 10 + (c.toNat - 0x30)) else none) 0

/-- A count of seconds, below 2^64. -/
def patience? (s : String) : Option Nat :=
  let n := match s.toList with
    | '+' :: cs => digits cs
    | cs => digits cs
  n.filter (· < 0x10000000000000000)

/-- A port, below 2^16. It may have a sign. -/
def port? (s : String) : Option Nat :=
  match s.toList with
  | '+' :: cs => (digits cs).filter (· < 0x10000)
  | '-' :: cs => (digits cs).filter (· = 0)
  | cs => (digits cs).filter (· < 0x10000)

def truth? (s : String) : Option Bool :=
  if s = "true" then some true else if s = "false" then some false else none

inductive Valued
  | host
  | port
  | patience
  deriving DecidableEq

def Valued.ofName (s : String) : Option Valued :=
  if s = "host" then some .host
  else if s = "port" then some .port
  else if s = "timeout" then some .patience
  else none

/-- Whether an argument looks like an option. A lone hyphen is a value. -/
def isOption (arg : String) : Bool :=
  match arg.toList with
  | '-' :: _ :: _ => true
  | _ => false

/-- Sets an option to its first and only value. -/
def Options.set (o : Options) (v : Valued) (value : String) : Except Halt Options :=
  match v with
  | .host => if o.host.isSome then .error .misuse else .ok { o with host := some value }
  | .port =>
    match o.port, port? value with
    | none, some n => .ok { o with port := some n }
    | _, _ => .error .misuse
  | .patience =>
    match o.patience, patience? value with
    | none, some n => .ok { o with patience := some n }
    | _, _ => .error .misuse

def Options.setVerbose (o : Options) : Except Halt Options :=
  if o.verbose.isSome then .error .misuse else .ok { o with verbose := some true }

def Options.setLetters (o : Options) : List Char → Except Halt Options
  | [] => .ok o
  | 'v' :: cs => o.setVerbose.bind fun o => o.setLetters cs
  | 'V' :: _ => .error .version
  | 'h' :: _ => .error .help
  | _ => .error .misuse

def splitValue (cs : List Char) : String × Option String :=
  let name := String.ofList (cs.takeWhile (· != '='))
  match cs.dropWhile (· != '=') with
  | _ :: value => (name, some (String.ofList value))
  | [] => (name, none)

def Options.setFlag (o : Options) (name : String) : Except Halt Options :=
  if name = "verbose" then o.setVerbose
  else if name = "version" then .error .version
  else if name = "help" then .error .help
  else .error .misuse

def readOptions (o : Options) : List String → Except Halt (Options × List String)
  | [] => .ok (o, [])
  | arg :: rest =>
    match arg.toList with
    | '-' :: '-' :: cs =>
      let (name, attached) := splitValue cs
      match Valued.ofName name, attached, rest with
      | some v, some value, rest => (o.set v value).bind fun o => readOptions o rest
      | some v, none, value :: rest =>
        if isOption value then .error .misuse
        else (o.set v value).bind fun o => readOptions o rest
      | some _, none, [] => .error .misuse
      | none, some _, _ => .error .misuse
      | none, none, rest => (o.setFlag name).bind fun o => readOptions o rest
    | '-' :: c :: cs => (o.setLetters (c :: cs)).bind fun o => readOptions o rest
    | _ => .ok (o, arg :: rest)

/-- What an argument that looks like an option comes to where there are none. -/
def strayOption (arg : String) : Halt :=
  if arg = "-h" ∨ arg = "--help" then .help else .misuse

/-- Reads plain arguments, so many and no more. Behind two hyphens, all arguments are plain. -/
def readPlain (count : Nat) : List String → Except Halt (List String)
  | [] => if count = 0 then .ok [] else .error .misuse
  | arg :: rest =>
    if arg = "--" then if rest.length = count then .ok rest else .error .misuse
    else if isOption arg then .error (strayOption arg)
    else match count with
      | 0 => .error .misuse
      | count + 1 => (readPlain count rest).map (arg :: ·)

def readNone (call : α) (args : List String) : Except Halt α := (readPlain 0 args).map fun _ => call

def readOne (call : String → α) (args : List String) : Except Halt α :=
  match readPlain 1 args with
  | .ok [a] => .ok (call a)
  | .ok _ => .error .misuse
  | .error h => .error h

def readTwo (call : String → String → α) (args : List String) : Except Halt α :=
  match readPlain 2 args with
  | .ok [a, b] => .ok (call a b)
  | .ok _ => .error .misuse
  | .error h => .error h

def readControl : List String → Except Halt Hub.ControlCall
  | [] => .error .misuse
  | arg :: rest =>
    if isOption arg then .error (strayOption arg)
    else if arg = "list" then readNone .list rest
    else if arg = "ping" then readNone .ping rest
    else if arg = "run" then readOne .start rest
    else if arg = "stop" then readOne .stop rest
    else if arg = "help" then .error .help
    else .error .misuse

/-- Reads what is asked of an instance, or nothing if the argument names no command. -/
def readMember? (arg : String) (rest : List String) : Option (Except Halt Hub.InstanceCall) :=
  if arg = "list" then some (readNone .list rest)
  else if arg = "ping" then some (readNone .ping rest)
  else if arg = "get" then some (readOne .get rest)
  else if arg = "set" then some (readTwo .set rest)
  else if arg = "remove" then some (readOne .remove rest)
  else if arg = "help" then some (.error .help)
  else none

/-- Reads the suffix of an instance and what is asked of it. A command's name is no suffix. -/
def readInstance : List String → Except Halt Order
  | suffix :: arg :: rest =>
    if isOption suffix then .error (strayOption suffix)
    else match readMember? suffix (arg :: rest) with
      | some (.error h) => .error h
      | some (.ok _) => .error .misuse
      | none =>
        if isOption arg then .error (strayOption arg)
        else match readMember? arg rest with
          | some call => call.map (.member suffix)
          | none => .error .misuse
  | [arg] => .error (if arg = "help" then .help else strayOption arg)
  | [] => .error .misuse

def readOrder : List String → Except Halt Order
  | [] => .error .misuse
  | arg :: rest =>
    if arg = "hub" then (readControl rest).map .hub
    else if arg = "instance" then readInstance rest
    else if arg = "help" then .error .help
    else .error .misuse

abbrev Environment := String → Option String

/-! The variables that are looked at. -/

def hostVariable : String := "KEYHUB_HOST"

def portVariable : String := "KEYHUB_PORT"

def verboseVariable : String := "KEYHUB_VERBOSE"

def patienceVariable : String := "KEYHUB_TIMEOUT"

def variableNames : List String := [hostVariable, portVariable, verboseVariable, patienceVariable]

/-- A value from the environment, if it has one. It must be readable. -/
def fromEnvironment (env : Environment) (name : String) (read : String → Option α) :
    Except Halt (Option α) :=
  match env name with
  | none => .ok none
  | some s =>
    match read s with
    | some a => .ok (some a)
    | none => .error .misuse

def supplement (given : Option α) (env : Environment) (name : String) (read : String → Option α) :
    Except Halt (Option α) :=
  if given.isSome then .ok given else fromEnvironment env name read

def Options.complete (o : Options) (env : Environment) (order : Order) : Except Halt Invocation := do
  let host ← supplement o.host env hostVariable some
  let port ← supplement o.port env portVariable port?
  let verbose ← supplement o.verbose env verboseVariable truth?
  let patience ← supplement o.patience env patienceVariable patience?
  let usual : Hub.Endpoint := {}
  return ⟨⟨host.getD usual.host, port.getD usual.port, verbose.getD usual.verbose⟩,
    patience.getD 10, order⟩

def Invocation.read (env : Environment) (args : List String) : Except Halt Invocation := do
  let (options, rest) ← readOptions {} args
  let order ← readOrder rest
  options.complete env order

end Switchboard.Command
