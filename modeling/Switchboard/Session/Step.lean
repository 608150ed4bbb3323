import Switchboard.Session.Idle

namespace Switchboard.Session

open Link (Status)

inductive Step
  | connect (name url : String) (verbose : Bool) (delay : Nat)
  | clone (name copy : String)
  | drop (name : String)
  | send (name label : String) (request : Message.Request)
  | abandon (label : String)
  | subscribe (name tag : String)
  | watch (name tag : String)
  | openHub (name : String) (endpoint : Hub.Endpoint)
  | openInstance (name : String) (endpoint : Hub.Endpoint) (suffix : String)
  | askHub (name label : String) (call : Hub.ControlCall) (opened : String)
  | askInstance (name label : String) (call : Hub.InstanceCall)
  | transport (socket : SocketIndex) (event : Link.Event)
  | detach (socket : SocketIndex)
  | advance (time : Nat)
  | connections
  | wait

inductive Return
  | nothing
  | address (text : String)
  | invalidUrl (fault : Address.Fault)
  | misaddressed (why : Hub.Misaddressed)
  | status (status : Status)
  | urls (urls : List String)

def post (s : Session) (l : LinkIndex) (i : Link.Input) : Session :=
  s.setNode l fun n => { n with inbox := n.inbox ++ [i] }

def call (s : Session) (label : String) (l : LinkIndex) (request : Message.Request)
    (continuation : Option Continuation) : Session :=
  { s.post l (.request request s.callers) with
    calls := s.calls ++ [{ caller := s.callers, label, link := l, continuation }]
    callers := s.callers + 1 }

def callInVain (s : Session) (label : String) (l : LinkIndex) (why : Hub.Misaddressed) : Session :=
  let progress := Progress.done (.answer (.error (.misaddressed why)))
  { s with
    calls := s.calls ++ [{ caller := s.callers, label, link := l, progress }]
    callers := s.callers + 1 }

def openAt (name : String) (role : Role) (e : Hub.Endpoint) (address : Except Hub.Misaddressed Address)
    (s : Session) : Return × Change :=
  match address with
  | .error why => (.misaddressed why, s, [])
  | .ok a => (.address a.text, s.openLink name role { url := a.text, verbose := e.verbose })

def withHandle (s : Session) (name : String) (f : Handle → Session) : Return × Change :=
  match s.handle? name with
  | some h => (.nothing, f h, [])
  | none => (.nothing, s, [])

/-- Takes a step, without letting anybody react to it yet. -/
def take (s : Session) : Step → Return × Change
  | .connect name url verbose delay =>
    match Address.parse url with
    | .error fault => (.invalidUrl fault, s, [])
    | .ok a =>
      (.address a.text, s.openLink name .client { url := a.text, reconnectDelay := delay, verbose })
  | .clone name copy => s.withHandle name fun h => s.name { h with name := copy }
  | .drop name => (.nothing, { s with handles := s.handles.filter (·.name != name) }, [])
  | .send name label request => s.withHandle name fun h => s.call label h.link request none
  | .abandon label => (.nothing, { s with calls := s.calls.filter (·.label != label) }, [])
  | .subscribe name tag => s.withHandle name fun h => s.post h.link (.subscribe tag)
  | .watch name tag =>
    match s.handle? name with
    | none => (.nothing, s, [])
    | some h =>
      match s.nodes[h.link]? with
      | none => (.nothing, s, [])
      | some n =>
        (.status n.link.status, { s with watches := s.watches ++ [⟨tag, h.link, n.published⟩] }, [])
  | .openHub name e => s.openAt name (.hub e) e e.control
  | .openInstance name e suffix => s.openAt name .member e (e.instanceAt suffix)
  | .askHub name label c opened => s.withHandle name fun h =>
      match h.role with
      | .hub e =>
        match c.plan e with
        | .ok p => s.call label h.link p.request (some ⟨p.sequel, opened, e.verbose⟩)
        | .error why => s.callInVain label h.link why
      | _ => s
  | .askInstance name label c => s.withHandle name fun h =>
      s.call label h.link c.plan.request (some ⟨c.plan.sequel, "", false⟩)
  | .transport i event =>
    match s.sockets[i]? with
    | none => (.nothing, s, [])
    | some k =>
      (.nothing, if s.holds k.link then s.post k.link (.transport k.epoch event) else s, [])
  | .detach i => (.nothing, s.setSocket i fun k => { k with attached := false }, [])
  | .advance time => (.nothing, { s with now := s.now + time }, [])
  | .connections => (.urls (s.sockets.map (·.url)), s, [])
  | .wait => (.nothing, s, [])

/-- Takes a step. Unless it is held back, the session then runs until it is idle. -/
def step (s : Session) (held : Bool) (st : Step) : Return × Change :=
  let (returned, change) := s.take st
  (returned, if held then change else (change.andThen settleDown).andThen tell)

def statuses (s : Session) : List (String × Status) :=
  s.handles.filterMap fun h => s.nodes[h.link]?.map fun n => (h.name, n.link.status)

structure View where
  returned : Return
  notes : List Note
  statuses : List (String × Status)

def views (s : Session) : List (Bool × Step) → List View
  | [] => []
  | (held, st) :: rest =>
    let (returned, s', notes) := s.step held st
    ⟨returned, notes, s'.statuses⟩ :: views s' rest

end Switchboard.Session
