import Switchboard.Json.Value

namespace Switchboard.Message

/-- The id of a request, counted from one on each connection. The count has no bound here: a
connection with `2 ^ 64` calls, where a word of 64 bits would overflow, is out of scope. -/
abbrev Id := Nat

/-- A request: an action and two options, empty when unused. -/
structure Request where
  action : String
  option1 : String := ""
  option2 : String := ""
  deriving DecidableEq

structure Response where
  id : Id
  success : Bool
  result : Json.Value
  error : String

def Response.succeeded (id : Id) (result : Json.Value) : Response := ⟨id, true, result, ""⟩

def Response.failed (id : Id) (error : String) : Response := ⟨id, false, .null, error⟩

def Response.outcome (r : Response) : Except String Json.Value :=
  if r.success then .ok r.result else .error r.error

end Switchboard.Message
