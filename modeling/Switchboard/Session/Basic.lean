import Switchboard.Hub.Call
import Switchboard.Link.Basic

/-!
A session: links that share one clock, the handles and calls that keep them going, and the sockets
they make. What can be seen of a session is a list of notes.
-/

namespace Switchboard

open Link (Caller Effect Input LogLine Status)

namespace Session

abbrev LinkIndex := Nat

abbrev SocketIndex := Nat

inductive Role
  | client
  | hub (endpoint : Hub.Endpoint)
  | member

/-- A named hold on a link. A link stops when nobody holds it. -/
structure Handle where
  name : String
  link : LinkIndex
  role : Role

/-- A link in a session: what it has yet to react to, how often it has published its status, and
whether it has stopped. -/
structure Node where
  link : Link
  inbox : List Input := []
  published : Nat := 0
  stopped : Bool := false

/-- A connection as its far side sees it. The far side may have gone away, after which writing
fails. -/
structure Socket where
  link : LinkIndex
  epoch : Epoch
  url : String
  attached : Bool := true
  closed : Bool := false

inductive Result
  | plain (outcome : Link.Outcome)
  | answer (answer : Except Hub.Failure Hub.Answer)

inductive Progress
  | waiting
  | settled (outcome : Link.Outcome)
  | done (result : Result)

/-- A call that goes on once its link has settled it. It holds the link until it is done, and a link
it opens gets a name and an endpoint of its own. -/
structure Continuation where
  sequel : Hub.Sequel
  name : String
  verbose : Bool

structure Call where
  caller : Caller
  label : String
  link : LinkIndex
  continuation : Option Continuation := none
  progress : Progress := .waiting

/-- Somebody who looks at the status of a link, and how many of its publications they have seen. -/
structure Watch where
  tag : String
  link : LinkIndex
  seen : Nat

inductive Note
  | connected (socket : SocketIndex) (url : String)
  | sent (socket : SocketIndex) (text : String)
  | closed (socket : SocketIndex)
  | settled (label : String) (result : Result)
  | updated (tag : String) (epoch : Epoch)
  | watched (tag : String) (status : Status)
  | logged (line : LogLine)

end Session

/-- The state of a session. Calls are kept in the order they were made; `woken` lists those that a
link has settled and that have yet to go on, in the order of their settlement. -/
structure Session where
  now : Nat := 0
  nodes : List Session.Node := []
  sockets : List Session.Socket := []
  handles : List Session.Handle := []
  calls : List Session.Call := []
  watches : List Session.Watch := []
  callers : Nat := 0
  woken : List Caller := []

namespace Session

abbrev Change := Session × List Note

def Change.andThen (c : Change) (f : Session → Change) : Change :=
  let (s, notes) := f c.1
  (s, c.2 ++ notes)

def each (xs : List α) (f : α → Session → Change) (s : Session) : Change :=
  xs.foldl (fun c x => c.andThen (f x)) (s, [])

def Call.isDone (c : Call) : Bool :=
  match c.progress with
  | .done _ => true
  | _ => false

def holds (s : Session) (l : LinkIndex) : Bool :=
  s.handles.any (·.link == l) ||
    s.calls.any fun c => c.link == l && c.continuation.isSome && !c.isDone

def socketOf? (s : Session) (l : LinkIndex) (epoch : Epoch) : Option (SocketIndex × Socket) :=
  (s.sockets.zipIdx.find? fun (k, _) => k.link == l && k.epoch == epoch).map fun (k, i) => (i, k)

def setNode (s : Session) (l : LinkIndex) (f : Node → Node) : Session :=
  { s with nodes := s.nodes.modify l f }

def setSocket (s : Session) (i : SocketIndex) (f : Socket → Socket) : Session :=
  { s with sockets := s.sockets.modify i f }

/-- The call after its link has settled it. -/
def Call.settle (c : Call) (outcome : Link.Outcome) : Call :=
  match c.progress, c.continuation with
  | .waiting, none => { c with progress := .done (.plain outcome) }
  | .waiting, some _ => { c with progress := .settled outcome }
  | _, _ => c

/-- Settles the call of a caller. A caller who is gone is told nothing. -/
def settle (s : Session) (caller : Caller) (outcome : Link.Outcome) : Session :=
  { s with
    calls := s.calls.map fun c => if c.caller = caller then c.settle outcome else c
    woken := s.woken ++ [caller] }

def perform (l : LinkIndex) (e : Effect) (s : Session) : Change :=
  match e with
  | .connect epoch url =>
    ({ s with sockets := s.sockets ++ [{ link := l, epoch, url }] },
      [.connected s.sockets.length url])
  | .send epoch id text =>
    match s.socketOf? l epoch with
    | none => (s, [])
    | some (i, socket) =>
      if socket.attached then (s, [.sent i text])
      else (s, [.logged (Link.sendFailed id .connectionClosed)])
  | .close epoch =>
    match s.socketOf? l epoch with
    | none => (s, [])
    | some (i, socket) =>
      (s.setSocket i fun k => { k with closed := true }, if socket.attached then [.closed i] else [])
  | .settle t => (s.settle t.caller t.outcome, [])
  | .forget caller => (s.settle caller (.error .stopped), [])
  | .publish _ => (s.setNode l fun n => { n with published := n.published + 1 }, [])
  | .notify callback epoch => (s, [.updated callback epoch])
  | .log line => (s, [.logged line])

def carryOut (l : LinkIndex) (r : Link.Reaction) (s : Session) : Change :=
  each r.2 (perform l) (s.setNode l fun n => { n with link := r.1 })

def addLink (config : Link.Config) (s : Session) : Change :=
  let (link, effects) := Link.start config
  each effects (perform s.nodes.length) { s with nodes := s.nodes ++ [{ link }] }

/-- Gives a link a handle. Whoever had the name loses their handle. -/
def name (h : Handle) (s : Session) : Session :=
  { s with handles := s.handles.filter (·.name != h.name) ++ [h] }

def handle? (s : Session) (name : String) : Option Handle := s.handles.find? (·.name == name)

def openLink (name : String) (role : Role) (config : Link.Config) (s : Session) : Change :=
  let (s', notes) := s.addLink config
  (s'.name ⟨name, s.nodes.length, role⟩, notes)

end Session

end Switchboard
