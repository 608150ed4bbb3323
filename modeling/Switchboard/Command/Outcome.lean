import Switchboard.Command.Arguments
import Switchboard.Session.Step
import Switchboard.Channel.Exchange

namespace Switchboard.Command

open Session (Note Result)

structure Exit where
  code : Nat
  output : String := ""
  error : Option String := none
  deriving DecidableEq

def actionName : Message.Action → String
  | .get => "Get"
  | .set => "Set"
  | .list => "List"
  | .remove => "Remove"
  | .ping => "Ping"
  | .run => "Run"

def failureDetail : Hub.Failure → String
  | .link failure => "Client(" ++ failure.detail ++ ")"
  | .misaddressed why => Link.wrapped "InvalidAddress" why.reason
  | .unexpected why =>
    "UnexpectedResult \x7b action: " ++ actionName why.action ++ ", message: " ++
      Text.quoted why.why ++ " \x7d"

/-- Why a command fails: its call failed, or no answer came in time. -/
inductive Trouble
  | call (failure : Hub.Failure)
  | patience (seconds : Nat)

def Trouble.detail : Trouble → String
  | .call failure => "Sdk(" ++ failureDetail failure ++ ")"
  | .patience n => "Timeout(" ++ (if n = 0 then "0ns" else toString n ++ "s") ++ ")"

def Trouble.exit (t : Trouble) : Exit := { code := 1, error := some ("Error: " ++ t.detail) }

/-- The exit of a program that has nothing to do. Its version is the only thing it says. -/
def Halt.exit : Halt → Exit
  | .misuse => { code := 2 }
  | .version => { code := 0, output := "keyhub-cli 0.1.0\n" }
  | .help => { code := 0 }

def Order.isPing : Order → Bool
  | .hub .ping => true
  | .member _ .ping => true
  | _ => false

def answerLines : Hub.Answer → List String
  | .nothing => []
  | .text s => [s]
  | .texts ss => ss
  | .entries es => es.map fun e => e.1 ++ "\t" ++ e.2
  | .address a => [a.text]

def Order.exit (o : Order) (a : Hub.Answer) : Exit :=
  let lines := if o.isPing then ["pong"] else answerLines a
  { code := 0, output := String.join (lines.map (· ++ "\n")) }

inductive Ending
  | stays
  | leaves (code : Nat) (reason : String)
  | drops

/-- A server: one that is not there, one that never says anything, or one that answers the first
request. -/
inductive Server
  | absent
  | mute
  | answering (frames : List String) (ending : Ending)

def Ending.moments : Ending → List Channel.Moment
  | .stays => []
  | .leaves code reason => [.read (.frame (.close (some (code, reason))))]
  | .drops => [.read (.fault Channel.Obstacle.dropped.message)]

def Server.moments (network : Channel.Network) : Server → List Channel.Moment
  | .absent =>
    [.fail (if network = .reachable then Channel.Obstacle.refused else .unreachable).message]
  | .mute => if network = .reachable then [] else [.fail Channel.Obstacle.unreachable.message]
  | .answering frames ending =>
    if network = .reachable then
      .connect :: frames.map (fun f => .read (.frame (.text f))) ++ ending.moments
    else [.fail Channel.Obstacle.unreachable.message]

inductive Sight
  | path (path : String)
  | request (frame : String)

def handleName : String := "it"

def Order.opening (o : Order) (e : Hub.Endpoint) : Session.Step :=
  match o with
  | .hub _ => .openHub handleName e
  | .member suffix _ => .openInstance handleName e suffix

def Order.asking : Order → Session.Step
  | .hub call => .askHub handleName handleName call handleName
  | .member _ call => .askInstance handleName handleName call

def resultOf (notes : List Note) : Option Result :=
  notes.findSome? fun
    | .settled _ r => some r
    | _ => none

def Invocation.notes (i : Invocation) (network : Channel.Network) (server : Server) : List Note :=
  let events := Channel.reports (Channel.run {} (server.moments network)).2
  let steps := [i.order.opening i.endpoint, i.order.asking] ++ events.map (.transport 0)
  (Session.views {} (steps.map (false, ·))).flatMap (·.notes)

/-- The path of an address with its query, as a server is asked for it. -/
def target (a : Address) : String :=
  a.path.text ++
    match a.query with
    | some q => "?" ++ q
    | none => ""

def Invocation.address (i : Invocation) : Except Hub.Misaddressed Address :=
  match i.order with
  | .hub _ => i.endpoint.control
  | .member suffix _ => i.endpoint.instanceAt suffix

def Invocation.sights (i : Invocation) (network : Channel.Network) (server : Server) : List Sight :=
  match network, server, i.address with
  | .reachable, .answering _ _, .ok a =>
    .path (target a) :: (i.notes network server).filterMap fun
      | .sent _ text => some (.request text)
      | _ => none
  | _, _, _ => []

/-- The exit of an invocation: a server that is heard of at all is heard of in time. -/
def Invocation.run (i : Invocation) (network : Channel.Network) (server : Server) : Exit :=
  match i.address with
  | .error why => (Trouble.call (.misaddressed why)).exit
  | .ok _ =>
    match resultOf (i.notes network server) with
      | some (.answer (.ok a)) => i.order.exit a
      | some (.answer (.error f)) => (Trouble.call f).exit
      | some (.plain _) => (Trouble.patience i.patience).exit
      | none => (Trouble.patience i.patience).exit

def exit (env : Environment) (network : Channel.Network) (server : Server) (args : List String) :
    Exit :=
  match Invocation.read env args with
  | .error h => h.exit
  | .ok i => i.run network server

def sights (env : Environment) (network : Channel.Network) (server : Server) (args : List String) :
    List Sight :=
  match Invocation.read env args with
  | .error _ => []
  | .ok i => i.sights network server

end Switchboard.Command
