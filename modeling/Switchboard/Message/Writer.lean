import Switchboard.Message.Basic
import Switchboard.Json.Printer

/-!
Writing requests and responses. A message is an object with an id and a payload; the payload is the
JSON text of another object, as a string.
-/

namespace Switchboard.Message

open Json

def objectChars (fields : List (String × List Char)) : List Char :=
  let one := fun (f : String × List Char) => stringChars f.1.toList ++ ':' :: f.2
  '{' :: (List.intersperse [','] (fields.map one)).flatten ++ ['}']

def envelopeChars (id : Id) (payload : List Char) : List Char :=
  objectChars [("request_id", natChars id), ("payload", stringChars payload)]

def Request.payloadChars (r : Request) : List Char :=
  objectChars [("action", stringChars r.action.toList), ("option_1", stringChars r.option1.toList),
    ("option_2", stringChars r.option2.toList)]

def Response.payloadChars (r : Response) : List Char :=
  objectChars [("success", (Value.boolean r.success).chars), ("result", r.result.chars),
    ("error", stringChars r.error.toList)]

def Request.chars (r : Request) (id : Id) : List Char := envelopeChars id r.payloadChars

def Response.chars (r : Response) : List Char := envelopeChars r.id r.payloadChars

def Request.write (r : Request) (id : Id) : String := String.ofList (r.chars id)

def Response.write (r : Response) : String := String.ofList r.chars

end Switchboard.Message
