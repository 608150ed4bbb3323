import Switchboard.Link.Basic
import Switchboard.Text.Octets

/-!
A channel: one connection over a socket. Its owner gives it texts to write and may close it; its loop
connects, writes and reads, and reports to the owner. What the loop meets next, and which of several
things it turns to, is given from outside as a list of moments.
-/

namespace Switchboard

namespace Channel

inductive Frame
  | text (text : String)
  | binary (bytes : List UInt8)
  | ping
  | pong
  | close (status : Option (Nat × String))

inductive Reading
  | frame (frame : Frame)
  | fault (reason : String)
  | ended

/-- What happens to a channel. Its owner sends or closes. Its loop fails to connect or connects,
notices that it was closed, writes the oldest text it was given, or reads. -/
inductive Moment
  | send (text : String)
  | close
  | fail (reason : String)
  | connect
  | notice
  | write (fault : Option String)
  | read (reading : Reading)

inductive Mark
  | report (event : Link.Event)
  | wrote (text : String)
  | wroteClose
  | took (text : String)
  | refused (text : String)

inductive Stage
  | connecting
  | talking
  | over
  deriving DecidableEq

end Channel

structure Channel where
  stage : Channel.Stage := .connecting
  outgoing : List String := []
  closed : Bool := false

namespace Channel

open Link (Closing TransportFault)

abbrev Reaction := Channel × List Mark

def finish (c : Channel) (events : List Link.Event) : Reaction :=
  ({ c with stage := .over }, events.map .report)

def breakDown (c : Channel) (fault : TransportFault) (reason : String) : Reaction :=
  c.finish [.fault fault, .closed (.abort reason)]

def isSupported (scheme : String) : Bool := scheme == "ws" || scheme == "wss"

def start (scheme : String) : Reaction :=
  if isSupported scheme then ({}, [])
  else breakDown {} (.invalidUrl ("unsupported scheme: " ++ scheme)) "invalid url"

def closingOf : Option (Nat × String) → Closing
  | some (code, reason) => .leave code reason
  | none => .leave Closing.noCode ""

/-- A frame has arrived. Binary frames that hold text count as text, and pings answer themselves. -/
def readFrame (c : Channel) : Frame → Reaction
  | .text text => (c, [.report (.message text)])
  | .binary bytes =>
    match Text.ofOctets bytes with
    | .ok cs => (c, [.report (.message (String.ofList cs))])
    | .error garble => (c, [.report (.fault (.invalidFrame garble.message))])
  | .ping => (c, [])
  | .pong => (c, [])
  | .close status => c.finish [.closed (closingOf status)]

def onReading (c : Channel) : Reading → Reaction
  | .frame f => c.readFrame f
  | .fault reason => c.breakDown (.io reason) reason
  | .ended => c.finish [.closed (.abort "stream ended without close frame")]

def onWrite (c : Channel) (fault : Option String) : Reaction :=
  match c.outgoing with
  | [] => (c, [])
  | text :: rest =>
    let c := { c with outgoing := rest }
    match fault with
    | none => (c, [.wrote text])
    | some reason => c.breakDown (.io reason) reason

/-- The owner sends a text. It is taken until the channel is closed or over. -/
def onSend (c : Channel) (text : String) : Reaction :=
  if c.closed || c.stage = .over then (c, [.refused text])
  else ({ c with outgoing := c.outgoing ++ [text] }, [.took text])

/-- The loop notices that its owner has closed it, and says goodbye to a peer it talks to. The owner
hears nothing more. -/
def onNotice (c : Channel) : Reaction :=
  if c.closed then
    ({ c with stage := .over }, if c.stage = .talking then [.wroteClose] else [])
  else (c, [])

/-- The reaction of a channel to a moment. A moment that does not fit its stage passes by. -/
def step (c : Channel) (m : Moment) : Reaction :=
  match m, c.stage with
  | .send text, _ => c.onSend text
  | .close, _ => ({ c with closed := true }, [])
  | .fail reason, .connecting =>
    c.breakDown (.connectionFailed ("WebSocket connect failed: " ++ reason)) reason
  | .connect, .connecting => ({ c with stage := .talking }, [.report .opened])
  | .notice, .connecting => c.onNotice
  | .notice, .talking => c.onNotice
  | .write fault, .talking => c.onWrite fault
  | .read reading, .talking => c.onReading reading
  | _, _ => (c, [])

def run (c : Channel) : List Moment → Reaction
  | [] => (c, [])
  | m :: ms =>
    let (c, first) := c.step m
    let (c, others) := run c ms
    (c, first ++ others)

/-- What a channel to an address of a scheme shows over a list of moments. -/
def history (scheme : String) (ms : List Moment) : List Mark :=
  let (c, first) := start scheme
  first ++ (c.run ms).2

def reports (marks : List Mark) : List Link.Event :=
  marks.filterMap fun
    | .report e => some e
    | _ => none

end Channel

end Switchboard
