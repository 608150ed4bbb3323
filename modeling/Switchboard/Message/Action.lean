namespace Switchboard.Message

inductive Action
  | get
  | set
  | list
  | remove
  | ping
  | run
  deriving DecidableEq

def Action.name : Action → String
  | .get => "GET"
  | .set => "SET"
  | .list => "LIST"
  | .remove => "REMOVE"
  | .ping => "PING"
  | .run => "RUN"

def Action.all : List Action := [.get, .set, .list, .remove, .ping, .run]

def capital (c : Char) : Char :=
  if 'a' ≤ c ∧ c ≤ 'z' then Char.ofNat (c.toNat - 32) else c

def capitals (s : String) : String := String.ofList (s.toList.map capital)

/-- The action a text names in letters of either case, or the text in capitals if it names none. -/
def Action.ofText (s : String) : Except String Action :=
  match Action.all.find? fun a => a.name == capitals s with
  | some a => .ok a
  | none => .error (capitals s)

/-- A text names an action if it is its name in letters of either case. -/
theorem Action.ofText_eq_ok_iff {s : String} {a : Action} :
    Action.ofText s = .ok a ↔ capitals s = a.name := by
  unfold Action.ofText
  constructor
  · intro h
    split at h
    · next found hfound =>
      cases h
      have hname := List.find?_some (p := fun b : Action => b.name == capitals s) hfound
      exact (beq_iff_eq.mp hname).symm
    · cases h
  · intro h
    have hfound : Action.all.find? (fun b => b.name == capitals s) = some a := by
      rw [h]
      cases a <;> rfl
    rw [hfound]

end Switchboard.Message
