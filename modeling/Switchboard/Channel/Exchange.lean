import Switchboard.Channel.Basic

namespace Switchboard.Channel

inductive Network
  | reachable
  | unreachable
  deriving DecidableEq

inductive Obstacle
  | unreachable
  | refused
  | answered (status : String)
  | noAnswer
  | noTls
  | dropped

def Obstacle.message : Obstacle → String
  | .unreachable => "IO error: Network is unreachable (os error 101)"
  | .refused => "IO error: Connection refused (os error 111)"
  | .answered status => "HTTP error: " ++ status
  | .noAnswer => "WebSocket protocol error: Handshake not finished"
  | .noTls => "URL error: TLS support not compiled in"
  | .dropped => "WebSocket protocol error: Connection reset without closing handshake"

/-- The obstacle in an answer that is not the one hoped for: the status on its first line. -/
def Obstacle.ofAnswer (answer : String) : Obstacle :=
  let line := answer.toList.takeWhile fun c => c != '\r' && c != '\n'
  match line.dropWhile (· != ' ') with
  | _ :: status => .answered (String.ofList status)
  | [] => .noAnswer

inductive Act
  | frame (frame : Frame)
  | drop
  | send (text : String)
  | close

/-- A peer: one that is not there, one that the owner closes its channel to before they meet, one
that answers with a text and goes, or one that follows a script. -/
inductive Peer
  | absent
  | hurried
  | curt (secure : Bool) (answer : String)
  | scripted (acts : List Act)

/-- What an act comes to for the one who acts: whether a text would be taken, the text that the peer
receives, why it was not taken, or that the peer receives a goodbye. -/
inductive Response
  | takes (taken : Bool)
  | received (text : String)
  | failed (fault : Link.TransportFault)
  | goodbye

structure View where
  events : List Link.Event
  response : Option Response := none

inductive Stalled
  | waiting

/-- The moments of an act, the loop turning to each thing as soon as it can. -/
def Act.moments : Act → List Moment
  | .frame f => [.read (.frame f)]
  | .drop => [.read (.fault Obstacle.dropped.message)]
  | .send text => [.send text, .write none]
  | .close => [.close, .notice]

def Act.response (a : Act) (marks : List Mark) : Option Response :=
  match a with
  | .send _ => marks.findSome? fun
    | .wrote text => some (.received text)
    | .refused _ => some (.failed .connectionClosed)
    | _ => none
  | .close => marks.findSome? fun
    | .wroteClose => some .goodbye
    | _ => none
  | _ => none

def views (c : Channel) : List Act → List View
  | [] => []
  | a :: rest =>
    let (c, marks) := c.run a.moments
    ⟨reports marks, a.response marks⟩ :: views c rest

/-- The view of moments that end before the peer is met, and whether a text would be taken then. -/
def viewInVain (ms : List Moment) : View :=
  let (c, marks) := Channel.run {} ms
  let taken := (c.onSend "").2.any fun
    | .took _ => true
    | _ => false
  ⟨reports marks, some (.takes taken)⟩

/-- The views of an exchange with a peer. A peer that has something to say waits until it is met. -/
def exchange (network : Network) : Peer → Except Stalled (List View)
  | .absent =>
    let obstacle := if network = .reachable then Obstacle.refused else .unreachable
    .ok [viewInVain [.fail obstacle.message]]
  | .hurried => .ok [viewInVain [.close, .notice]]
  | .curt secure answer =>
    if network = .unreachable then .error .waiting
    else
      let obstacle := if secure then .noTls else Obstacle.ofAnswer answer
      .ok [⟨reports (Channel.run {} [.fail obstacle.message]).2, none⟩]
  | .scripted acts =>
    if network = .unreachable then .error .waiting
    else
      let (c, marks) := Channel.step {} .connect
      .ok (⟨reports marks, none⟩ :: c.views acts)

end Switchboard.Channel
