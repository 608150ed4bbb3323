import Switchboard.Link.Pending

/-!
A desk where visitors wait for the outcome of a call. The calls are those of `Pending`; the desk
knows who still waits for which of them. A visitor who leaves is told nothing more, and the call
itself goes on.
-/

namespace Switchboard.Link

structure Visitor where
  caller : Caller
  name : String
  deriving DecidableEq

/-- The calls, the visitors still there in the order they came, and how many have come so far. -/
structure Desk where
  pending : Pending := {}
  visitors : List Visitor := []
  come : Nat := 0

inductive Desk.Query
  | register (name : String)
  | abandon (name : String)
  | resolve (id : Message.Id) (result : Json.Value)
  | reject (id : Message.Id) (failure : Failure)
  | rejectAll (failure : Failure)
  | reset
  | contains (id : Message.Id)

inductive Desk.Answer
  | id (id : Message.Id)
  | count (count : Nat)
  | truth (holds : Bool)
  | done
  deriving DecidableEq

/-- What a visitor is told: an outcome, or that there will be none. -/
structure Desk.News where
  name : String
  outcome : Option Outcome

def Visitor.news (settled : List Settlement) (forgotten : List Caller) (v : Visitor) :
    Option Desk.News :=
  match settled.find? (·.caller == v.caller) with
  | some s => some ⟨v.name, some s.outcome⟩
  | none => if forgotten.contains v.caller then some ⟨v.name, none⟩ else none

/-- Tells the visitors concerned, who leave with their news. -/
def Desk.tell (d : Desk) (pending : Pending) (settled : List Settlement)
    (forgotten : List Caller) : Desk × List Desk.News :=
  ({ d with pending, visitors := d.visitors.filter fun v => (v.news settled forgotten).isNone },
    d.visitors.filterMap (Visitor.news settled forgotten))

def Desk.settle (d : Desk) (id : Message.Id) (outcome : Outcome) :
    Desk.Answer × Desk × List Desk.News :=
  let (pending, settled) := d.pending.settle id outcome
  (.truth !settled.isEmpty, d.tell pending settled [])

def Desk.ask (d : Desk) : Desk.Query → Desk.Answer × Desk × List Desk.News
  | .register name =>
    (.id d.pending.next,
      { pending := d.pending.register d.come, visitors := d.visitors ++ [⟨d.come, name⟩]
        come := d.come + 1 }, [])
  | .abandon name =>
    let (left, stayed) := d.visitors.partition (·.name == name)
    (.count left.length, { d with visitors := stayed }, [])
  | .resolve id result => d.settle id (.ok result)
  | .reject id failure => d.settle id (.error failure)
  | .rejectAll failure =>
    let (pending, settled) := d.pending.settleAll (.error failure)
    (.count settled.length, d.tell pending settled [])
  | .reset =>
    let (pending, forgotten) := d.pending.reset
    (.done, d.tell pending [] forgotten)
  | .contains id => (.truth (d.pending.caller? id).isSome, d, [])

end Switchboard.Link
