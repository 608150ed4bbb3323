import Switchboard.Link.Pending
import Switchboard.Link.Backlog
import Switchboard.Link.Log
import Switchboard.Message.Writer
import Switchboard.Message.Frame

/-!
A link: one client's connection to a server, made anew whenever it ends. Everything a link reacts to
comes to it in one order. Each reaction is a new state and a list of effects, in their order.

Every connection is an epoch. What a connection reports carries its epoch, so that a link can pass
over late reports of a connection it has given up.
-/

namespace Switchboard

open Message (Id)

/-- The number of a connection of one link, from one. The count has no bound here: a link with
`2 ^ 64` connections, where a word of 64 bits would overflow, is out of scope. -/
abbrev Epoch := Nat

namespace Link

abbrev Callback := String

/-- Where a link connects to, how long it waits before it does so again, in milliseconds, and
whether it logs what it does. -/
structure Config where
  url : String
  reconnectDelay : Nat := 1000
  verbose : Bool := false

/-- What a connection is in. Requests wait while it is connecting, and are refused once it is
closed. -/
inductive Phase
  | connecting
  | opened
  | closed
  deriving DecidableEq

structure Status where
  epoch : Epoch
  phase : Phase
  deriving DecidableEq

inductive Event
  | opened
  | closed (closing : Closing)
  | message (text : String)
  | fault (fault : TransportFault)

inductive Input
  | request (request : Message.Request) (caller : Caller)
  | subscribe (callback : Callback)
  | transport (epoch : Epoch) (event : Event)

inductive Effect
  | connect (epoch : Epoch) (url : String)
  | send (epoch : Epoch) (id : Id) (text : String)
  | close (epoch : Epoch)
  | settle (settlement : Settlement)
  | forget (caller : Caller)
  | publish (status : Status)
  | notify (callback : Callback) (epoch : Epoch)
  | log (line : LogLine)

end Link

/-- The state of a link. `connection` is the connection it holds, by its epoch; `closedWith` is what
ended the current epoch; `deadline` is when it connects again; `status` was published last. -/
structure Link where
  config : Link.Config
  epoch : Epoch
  phase : Link.Phase
  connection : Option Epoch
  pending : Link.Pending
  backlog : Link.Backlog
  closedWith : Option Link.Failure
  deadline : Option Nat
  callbacks : List Link.Callback
  status : Link.Status

namespace Link

abbrev Reaction := Link × List Effect

def note (level : Level) (message : String) (fields : List (String × String)) : Effect :=
  .log ⟨level, message, fields⟩

/-- A line that is logged by a verbose link only. -/
def verbosely (l : Link) (message : String) (fields : List (String × String)) : List Effect :=
  if l.config.verbose then [note .info message fields] else []

/-- The line for a write that failed. The connection's end will settle the call. -/
def sendFailed (id : Id) (fault : TransportFault) : LogLine :=
  ⟨.warn, "failed to send request: " ++ fault.message, [("request_id", toString id)]⟩

def publish (l : Link) : Reaction :=
  let status := ⟨l.epoch, l.phase⟩
  ({ l with status }, [.publish status])

def connect (l : Link) : Reaction :=
  ({ l with connection := some l.epoch }, [.connect l.epoch l.config.url])

def start (config : Config) : Reaction :=
  connect
    { config, epoch := 1, phase := .connecting, connection := none, pending := {}, backlog := {}
      closedWith := none, deadline := none, callbacks := [], status := ⟨1, .connecting⟩ }

def transmit (l : Link) (n : Numbered) : List Effect :=
  let text := n.request.write n.id
  l.verbosely ("sending: " ++ text) [("request_id", toString n.id)] ++
    match l.connection with
    | none => []
    | some c => [.send c n.id text]

/-- Takes a request: refused while closed, kept back while connecting, written while open. -/
def submit (l : Link) (r : Message.Request) (caller : Caller) : Reaction :=
  match l.closedWith with
  | some failure =>
    (l, [note .debug "rejecting request made while disconnected" [("action", r.action)],
      .settle ⟨caller, .error failure⟩])
  | none =>
    let n : Numbered := ⟨l.pending.next, r⟩
    let l := { l with pending := l.pending.register caller }
    if l.phase = .opened then (l, l.transmit n)
    else
      ({ l with backlog := l.backlog.push n },
        [note .debug "connection not open, queueing request" [("request_id", toString n.id)]])

/-- The connection is open: what was kept back is written, oldest first. -/
def onOpen (l : Link) : Reaction :=
  if l.phase = .connecting then
    let (l, published) := publish { l with phase := .opened }
    let (kept, backlog) := l.backlog.flush
    ({ l with backlog },
      published ++
      l.verbosely "connection established"
        [("url", l.config.url), ("epoch", toString l.epoch)] ++
      [note .debug "flushing queued requests" [("count", toString kept.length)]] ++
      kept.flatMap l.transmit)
  else (l, [])

def settleEntry (p : Pending) : Except Message.Unreadable Message.Response → Pending × List Effect
  | .ok r =>
    let outcome := match r.outcome with
      | .ok v => .ok v
      | .error text => .error (.application text)
    match p.settle r.id outcome with
    | (p, []) =>
      (p, [note .trace "dropping reply for unknown request" [("request_id", toString r.id)]])
    | (p, settled) => (p, settled.map .settle)
  | .error e =>
    let warning := note .warn ("failed to decode reply: " ++ e.message) []
    match e.id? with
    | none => (p, [warning])
    | some id =>
      let (p, settled) := p.settle id (.error (.protocol e.message))
      (p, warning :: settled.map .settle)

def settleEntries (p : Pending) :
    List (Except Message.Unreadable Message.Response) → Pending × List Effect
  | [] => (p, [])
  | entry :: entries =>
    let (p, first) := settleEntry p entry
    let (p, others) := settleEntries p entries
    (p, first ++ others)

/-- A frame has arrived: each of its answers settles the call it names. -/
def onMessage (l : Link) (text : String) : Reaction :=
  let (pending, effects) := settleEntries l.pending (Message.readFrame text)
  ({ l with pending }, l.verbosely ("got data: " ++ text) [] ++ effects)

/-- The connection has ended: every call is settled with its end, and the next connection is due
after the delay. -/
def onClose (l : Link) (now : Nat) (c : Closing) : Reaction :=
  if l.phase = .closed then (l, [])
  else
    let ended := l.verbosely
      ("connection " ++ c.word ++ " code: " ++ toString c.code ++ ", reason: " ++ c.reason)
      [("epoch", toString l.epoch)]
    let closed := l.connection.toList.map Effect.close
    let failure := Failure.connectionLost c
    let (pending, settled) := l.pending.settleAll (.error failure)
    let rejected := note .debug "rejected pending requests" [("rejected", toString settled.length)]
    let (l, published) := publish
      { l with
        phase := .closed, connection := none, pending, backlog := l.backlog.clear
        closedWith := some failure, deadline := l.deadline <|> some (now + l.config.reconnectDelay) }
    (l, ended ++ closed ++ settled.map .settle ++ [rejected] ++ published)

/-- A fault is only logged: the end of the connection is reported apart from it. -/
def onFault (l : Link) (fault : TransportFault) : Reaction :=
  (l, l.verbosely ("got error: " ++ fault.message) [("epoch", toString l.epoch)])

def onEvent (l : Link) (now : Nat) : Event → Reaction
  | .opened => l.onOpen
  | .closed c => l.onClose now c
  | .message text => l.onMessage text
  | .fault f => l.onFault f

def Event.detail : Event → String
  | .opened => "Open"
  | .closed c => "Close(" ++ c.detail ++ ")"
  | .message text => wrapped "Message" text
  | .fault f => "Error(" ++ f.detail ++ ")"

def handle (l : Link) (now : Nat) : Input → Reaction
  | .request r caller => l.submit r caller
  | .subscribe callback => ({ l with callbacks := l.callbacks ++ [callback] }, [])
  | .transport epoch event =>
    if epoch = l.epoch then l.onEvent now event
    else
      (l, [note .trace "ignoring event from stale connection"
        [("epoch", toString epoch), ("current", toString l.epoch), ("event", event.detail)]])

def startEpoch (l : Link) : Reaction :=
  let (pending, forgotten) := l.pending.reset
  let l := { l with
    epoch := l.epoch + 1, pending, backlog := l.backlog.clear, closedWith := none
    phase := .connecting, deadline := none }
  let begun := l.verbosely "reconnecting" [("url", l.config.url), ("epoch", toString l.epoch)]
  let (l, connected) := l.connect
  let (l, published) := l.publish
  (l, forgotten.map .forget ++ begun ++ connected ++ published ++
    l.callbacks.map (.notify · l.epoch))

/-- The clock has reached `now`: the next epoch starts if it is due. -/
def tick (l : Link) (now : Nat) : Reaction :=
  match l.deadline with
  | none => (l, [])
  | some deadline => if deadline ≤ now then l.startEpoch else (l, [])

def stop (l : Link) : List Effect :=
  note .debug "all client handles dropped, stopping" [("url", l.config.url)] ::
    l.connection.toList.map Effect.close ++
    (l.pending.settleAll (.error .stopped)).2.map .settle

inductive Moment
  | input (input : Input)
  | clock

def react (l : Link) (now : Nat) : Moment → Reaction
  | .input i => l.handle now i
  | .clock => l.tick now

def run (l : Link) : List (Nat × Moment) → Reaction
  | [] => (l, [])
  | (now, m) :: rest =>
    let (l, first) := l.react now m
    let (l, others) := run l rest
    (l, first ++ others)

end Link

end Switchboard
