import Switchboard.Link.Failure
import Switchboard.Message.Basic

namespace Switchboard.Link

open Message (Id)

abbrev Caller := Nat

structure Settlement where
  caller : Caller
  outcome : Outcome

/-- The last id given out and the calls that wait, in the order of their ids. -/
structure Pending where
  last : Id := 0
  waiting : List (Id × Caller) := []

def Pending.next (p : Pending) : Id := p.last + 1

def Pending.register (p : Pending) (c : Caller) : Pending :=
  { last := p.next, waiting := p.waiting ++ [(p.next, c)] }

def Pending.caller? (p : Pending) (id : Id) : Option Caller := p.waiting.lookup id

def Pending.erase (p : Pending) (id : Id) : Pending :=
  { p with waiting := p.waiting.filter (·.1 != id) }

/-- Settles the call under an id, if one waits there. -/
def Pending.settle (p : Pending) (id : Id) (outcome : Outcome) : Pending × List Settlement :=
  match p.caller? id with
  | some c => (p.erase id, [⟨c, outcome⟩])
  | none => (p, [])

def Pending.settleAll (p : Pending) (outcome : Outcome) : Pending × List Settlement :=
  ({ p with waiting := [] }, p.waiting.map fun w => ⟨w.2, outcome⟩)

/-- Starts anew from id one. Also returns the callers left without an outcome. -/
def Pending.reset (p : Pending) : Pending × List Caller := ({}, p.waiting.map (·.2))

def Pending.size (p : Pending) : Nat := p.waiting.length

end Switchboard.Link
