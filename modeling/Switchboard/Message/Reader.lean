import Switchboard.Message.Basic
import Switchboard.Json.Record
import Switchboard.Json.Printer

/-!
Reading requests and responses. Reading is lenient: fields have a second, capitalised name, those
that are missing have defaults, and a payload may be an object itself instead of its text.
-/

namespace Switchboard.Message

open Json

inductive PayloadRefusal
  | json (why : Json.Refusal)
  | notPayload (found : Value)

/-- Why a message is refused. The id is known once the envelope is read. -/
inductive Unreadable
  | invalidEnvelope (why : Json.Refusal)
  | invalidPayload (id : Id) (why : PayloadRefusal)

def PayloadRefusal.message : PayloadRefusal → String
  | .json why => why.message
  | .notPayload found => "expected payload string or object, got " ++ found.compact

def Unreadable.message : Unreadable → String
  | .invalidEnvelope why => "invalid envelope: " ++ why.message
  | .invalidPayload id why => "invalid payload for request " ++ toString id ++ ": " ++ why.message

def Unreadable.id? : Unreadable → Option Id
  | .invalidEnvelope _ => none
  | .invalidPayload id _ => some id

structure Envelope where
  id : Id
  payload : Value

structure EnvelopeDraft where
  id : Option Id := none
  payload : Option Value := none

def envelope : Record EnvelopeDraft Envelope where
  name := "InboundEnvelope"
  empty := {}
  fields := [
    { name := "request_id", otherName := "RequestId", required := true
      isSet := fun d => d.id.isSome
      read := fun _ d => unsigned.map fun id => { d with id := some id }
      convert := fun d v => (unsignedOf v).map fun id => { d with id := some id } },
    { name := "payload", otherName := "Payload", required := false
      isSet := fun d => d.payload.isSome
      read := fun depth d => (value depth).map fun v => { d with payload := some v }
      convert := fun d v => .ok { d with payload := some v } }]
  build := fun d =>
    match d.id with
    | none => .error (.missingField "request_id")
    | some id => .ok ⟨id, d.payload.getD .null⟩

structure Answer where
  success : Bool
  result : Value
  error : String

structure AnswerDraft where
  success : Option Bool := none
  result : Option Value := none
  error : Option (Option String) := none

def answer : Record AnswerDraft Answer where
  name := "ResponsePayload"
  empty := {}
  fields := [
    { name := "success", otherName := "Success", required := false
      isSet := fun d => d.success.isSome
      read := fun _ d => truth.map fun b => { d with success := some b }
      convert := fun d v => (truthOf v).map fun b => { d with success := some b } },
    { name := "result", otherName := "Result", required := false
      isSet := fun d => d.result.isSome
      read := fun depth d => (value depth).map fun v => { d with result := some v }
      convert := fun d v => .ok { d with result := some v } },
    { name := "error", otherName := "Error", required := false
      isSet := fun d => d.error.isSome
      read := fun _ d => optionalText.map fun s => { d with error := some s }
      convert := fun d v => (optionalTextOf v).map fun s => { d with error := some s } }]
  build := fun d => .ok ⟨d.success.getD false, d.result.getD .null, (d.error.getD none).getD ""⟩

structure RequestDraft where
  action : Option String := none
  option1 : Option String := none
  option2 : Option String := none

def request : Record RequestDraft Request where
  name := "Request"
  empty := {}
  fields := [
    { name := "action", otherName := "Action", required := true
      isSet := fun d => d.action.isSome
      read := fun _ d => text.map fun s => { d with action := some s }
      convert := fun d v => (textOf v).map fun s => { d with action := some s } },
    { name := "option_1", otherName := "Option1", required := false
      isSet := fun d => d.option1.isSome
      read := fun _ d => text.map fun s => { d with option1 := some s }
      convert := fun d v => (textOf v).map fun s => { d with option1 := some s } },
    { name := "option_2", otherName := "Option2", required := false
      isSet := fun d => d.option2.isSome
      read := fun _ d => text.map fun s => { d with option2 := some s }
      convert := fun d v => (textOf v).map fun s => { d with option2 := some s } }]
  build := fun d =>
    match d.action with
    | none => .error (.missingField "action")
    | some action => .ok ⟨action, d.option1.getD "", d.option2.getD ""⟩

/-- Reads a payload: the text in a string, or an object as it is. -/
def readPayload (r : Record σ α) (payload : Value) : Except PayloadRefusal α :=
  match payload with
  | .string s => (r.parse s.toList).mapError fun f => .json (f.refusal s.toList)
  | .object _ => (r.ofValue payload).mapError fun c => .json c.refusal
  | other => .error (.notPayload other)

/-- Reads the envelope of a single message. Blanks around it do not count. -/
def readEnvelope (input : List Char) : Except Unreadable Envelope :=
  let body := Text.trim input
  (envelope.parse body).mapError fun f => .invalidEnvelope (f.refusal body)

def Envelope.response (e : Envelope) : Except Unreadable Response :=
  match readPayload answer e.payload with
  | .error why => .error (.invalidPayload e.id why)
  | .ok a => .ok ⟨e.id, a.success, a.result, a.error⟩

def Response.readChars (input : List Char) : Except Unreadable Response :=
  (readEnvelope input).bind Envelope.response

def Response.read (input : String) : Except Unreadable Response := readChars input.toList

def Request.read (input : String) : Except Unreadable (Id × Request) :=
  (readEnvelope input.toList).bind fun e =>
    match readPayload request e.payload with
    | .error why => .error (.invalidPayload e.id why)
    | .ok r => .ok (e.id, r)

def Response.ofValue (v : Value) : Except Unreadable Response :=
  ((envelope.ofValue v).mapError fun c => .invalidEnvelope c.refusal).bind Envelope.response

end Switchboard.Message
