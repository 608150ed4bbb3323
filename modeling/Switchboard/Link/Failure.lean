import Switchboard.Text.Quoted
import Switchboard.Json.Value

namespace Switchboard.Link

/-- How a connection ended. It is clean when both sides took leave. -/
structure Closing where
  code : Nat
  reason : String
  clean : Bool
  deriving DecidableEq

def Closing.leave (code : Nat) (reason : String) : Closing := ⟨code, reason, true⟩

def Closing.abort (reason : String) : Closing := ⟨1006, reason, false⟩

/-- The code of an end whose frame carried none. -/
def Closing.noCode : Nat := 1005

inductive TransportFault
  | invalidUrl (text : String)
  | connectionFailed (text : String)
  | io (text : String)
  | invalidFrame (text : String)
  | connectionClosed
  deriving DecidableEq

def TransportFault.message : TransportFault → String
  | .invalidUrl text => "invalid url: " ++ text
  | .connectionFailed text => "connection failed: " ++ text
  | .io text => "I/O error: " ++ text
  | .invalidFrame text => "invalid frame: " ++ text
  | .connectionClosed => "connection closed"

inductive Failure
  | application (text : String)
  | connectionLost (closing : Closing)
  | protocol (text : String)
  | codec (text : String)
  | stopped
  deriving DecidableEq

def Closing.word (c : Closing) : String := if c.clean then "closed" else "aborted"

def Failure.message : Failure → String
  | .application text => "server error: " ++ text
  | .connectionLost c =>
    "connection " ++ c.word ++ " (code: " ++ toString c.code ++ ", reason: " ++ c.reason ++ ")"
  | .protocol text => "protocol error: " ++ text
  | .codec text => "codec error: " ++ text
  | .stopped => "client stopped"

def wrapped (name text : String) : String := name ++ "(" ++ Text.quoted text ++ ")"

def Closing.fields (c : Closing) : String :=
  " \x7b code: " ++ toString c.code ++ ", reason: " ++ Text.quoted c.reason ++ ", was_clean: " ++
    (if c.clean then "true" else "false") ++ " \x7d"

def Closing.detail (c : Closing) : String := "CloseEvent" ++ c.fields

def TransportFault.detail : TransportFault → String
  | .invalidUrl text => wrapped "InvalidUrl" text
  | .connectionFailed text => wrapped "ConnectionFailed" text
  | .io text => wrapped "Io" text
  | .invalidFrame text => wrapped "InvalidFrame" text
  | .connectionClosed => "ConnectionClosed"

def Failure.detail : Failure → String
  | .application text => wrapped "Application" text
  | .connectionLost c => "ConnectionLost" ++ c.fields
  | .protocol text => wrapped "Protocol" text
  | .codec text => wrapped "Codec" text
  | .stopped => "Stopped"

abbrev Outcome := Except Failure Json.Value

end Switchboard.Link
