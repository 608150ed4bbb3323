import Switchboard.Message.Reader

/-!
Frames. A server may put several responses into one frame. A frame is read as a stream of values;
from the first fault on, what is left is read line by line, so that one bad line does not hide the
others.
-/

namespace Switchboard.Message

open Json

def opensDelimited : List Char → Bool
  | '[' :: _ => true
  | '"' :: _ => true
  | '{' :: _ => true
  | _ => false

/-- What may follow a value that does not show its own end. -/
def endsScalar : List Char → Bool
  | [] => true
  | c :: _ => isSpace c || c ∈ ['"', '[', ']', '{', '}', ',', ':']

def readLines (rest : List Char) : List (Except Unreadable Response) :=
  ((Text.lines rest).filter fun line => !line.all Text.isBlank).map Response.readChars

set_option linter.unusedVariables false in
/-- Reads a frame as a stream of values, and line by line from the first fault on. A value whose
end is not clear is lost. -/
def readFrameChars (frame : List Char) : List (Except Unreadable Response) :=
  match hs : skipSpace frame with
  | [] => []
  | input =>
    match h : (value maxDepth).run input with
    | .error _ => readLines input
    | .ok (v, rest) =>
      if opensDelimited input || endsScalar rest then Response.ofValue v :: readFrameChars rest
      else readLines rest
termination_by frame.length
decreasing_by
  have := (value maxDepth).consumes h
  have := skipSpace_length frame
  rw [hs] at this
  omega

def readFrame (frame : String) : List (Except Unreadable Response) :=
  readFrameChars frame.toList

end Switchboard.Message
