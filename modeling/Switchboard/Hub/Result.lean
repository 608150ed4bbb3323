import Switchboard.Json.Typed
import Switchboard.Json.Printer
import Switchboard.Message.Action

/-!
What the result of a call stands for. A list or a map may come as it is or as its JSON text in a
string, and `null` stands for an empty one.
-/

namespace Switchboard.Hub

open Json (Value)
open Message (Action)

structure Unexpected where
  action : Action
  why : String
  deriving DecidableEq

def Unexpected.message (u : Unexpected) : String :=
  u.action.name ++ " returned an unexpected result: " ++ u.why

/-- The value of a result: the one its text stands for if it is a string. -/
def unwrap (action : Action) : Value → Except Unexpected Value
  | .string s => (Json.parse s.toList).mapError fun f => ⟨action, (f.refusal s.toList).message⟩
  | v => .ok v

def compound (read : Value → Except Json.Cause (List α)) (action : Action) (v : Value) :
    Except Unexpected (List α) :=
  match unwrap action v with
  | .error u => .error u
  | .ok .null => .ok []
  | .ok v => (read v).mapError fun c => ⟨action, c.refusal.message⟩

def texts : Action → Value → Except Unexpected (List String) := compound Json.textsOf

/-- Reads a map from texts to texts, in the order of the keys. -/
def entries : Action → Value → Except Unexpected (List (String × String)) :=
  compound Json.textMapOf

def text (action : Action) : Value → Except Unexpected String
  | .string s => .ok s
  | v => .error ⟨action, "expected a string, got " ++ v.compact⟩

end Switchboard.Hub
