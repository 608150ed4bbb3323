import Switchboard.Proofs.Json.Record

namespace Switchboard.Json

def under (name otherName : String) (ms : List (String × Value)) : List Value :=
  (ms.filter fun m => m.1 = name ∨ m.1 = otherName).map (·.2)

/-- An object has at most one member under either of two names; its value, if it has one, is what
is written for `o`. -/
def Given (ms : List (String × Value)) (name otherName : String) (write : β → Value)
    (o : Option β) : Prop :=
  under name otherName ms = (o.map write).toList

def textOrNull : Option String → Value
  | none => .null
  | some s => .string s

variable {ms : List (String × Value)} {name otherName : String} {v : Value}

/-- A field that is given is given once. -/
theorem Given.length_le {write : β → Value} {o : Option β} (h : Given ms name otherName write o) :
    (under name otherName ms).length ≤ 1 := by
  rw [h]
  cases o <;> simp

theorem under_cons (m : String × Value) (ms : List (String × Value)) :
    under name otherName (m :: ms) =
      if m.1 = name ∨ m.1 = otherName then m.2 :: under name otherName ms
      else under name otherName ms := by
  simp only [under, List.filter_cons, decide_eq_true_eq]
  split <;> rfl

theorem under_insertMember_other {k : String} (hk : ¬ (k = name ∨ k = otherName)) (v : Value)
    (ms : List (String × Value)) :
    under name otherName (insertMember k v ms) = under name otherName ms := by
  induction ms with
  | nil => rw [insertMember, under_cons, if_neg hk]
  | cons m ms ih =>
    rw [insertMember]
    split
    · rw [under_cons, if_neg hk]
    split
    · next he =>
      rw [under_cons, if_neg hk, under_cons, if_neg (he ▸ hk)]
    · rw [under_cons, under_cons, ih]

theorem under_insertMember {k : String} (hk : k = name ∨ k = otherName) (v : Value)
    (h : under name otherName ms = []) : under name otherName (insertMember k v ms) = [v] := by
  induction ms with
  | nil => rw [insertMember, under_cons, if_pos hk, h]
  | cons m ms ih =>
    have hm : ¬ (m.1 = name ∨ m.1 = otherName) := by
      intro hm
      rw [under_cons, if_pos hm] at h
      contradiction
    have hms : under name otherName ms = [] := by rwa [under_cons, if_neg hm] at h
    rw [insertMember]
    split
    · rw [under_cons, if_pos hk, h]
    split
    · rw [under_cons, if_pos hk, hms]
    · rw [under_cons, if_neg hm, ih hms]

/-- If an object has at most one member under two names, putting the members in order does not
change what stands there. -/
theorem under_members (h : (under name otherName ms).length ≤ 1) :
    under name otherName (members ms) = under name otherName ms := by
  have hfold : ∀ done, (under name otherName done ++ under name otherName ms).length ≤ 1 →
      under name otherName (ms.foldl (fun ms m => insertMember m.1 m.2 ms) done) =
        under name otherName done ++ under name otherName ms := by
    clear h
    induction ms with
    | nil => simp [under]
    | cons m ms ih =>
      intro done h
      rw [List.foldl_cons]
      by_cases hm : m.1 = name ∨ m.1 = otherName
      · rw [under_cons, if_pos hm] at h ⊢
        rw [List.length_append, List.length_cons] at h
        have hdone : under name otherName done = [] := List.eq_nil_of_length_eq_zero (by omega)
        have hrest : under name otherName ms = [] := List.eq_nil_of_length_eq_zero (by omega)
        have hinsert := under_insertMember hm m.2 hdone
        rw [ih _ (by simp [hinsert, hrest]), hinsert, hdone]
        rfl
      · rw [under_cons, if_neg hm] at h ⊢
        have hinsert := under_insertMember_other hm m.2 done
        rw [ih _ (by rwa [hinsert]), hinsert]
  exact hfold [] h

/-- What becomes of a slot that is filled from values, each converted: it may be filled once. -/
inductive Taken (convert : Value → Except Cause β) : Option β → List Value → Option β → Prop
  | keep (o : Option β) : Taken convert o [] o
  | take {v : Value} {b : β} (h : convert v = .ok b) : Taken convert none [v] (some b)

variable {convert : Value → Except Cause β} {o o' : Option β} {vs : List Value}

theorem Taken.nil_iff : Taken convert o [] o' ↔ o = o' := by
  constructor
  · rintro ⟨⟩
    rfl
  · rintro rfl
    exact .keep o

theorem Taken.cons_iff :
    Taken convert o (v :: vs) o' ↔
      o = none ∧ ∃ b, convert v = .ok b ∧ Taken convert (some b) vs o' := by
  constructor
  · rintro (_ | h)
    exact ⟨rfl, _, h, .keep _⟩
  · rintro ⟨rfl, b, hb, _ | _⟩
    exact .take hb

/-- An empty slot takes just what its conversion has a text for. -/
theorem Taken.none_iff {write : β → Value} (h : ∀ v b, convert v = .ok b ↔ v = write b) :
    Taken convert none vs o ↔ vs = (o.map write).toList := by
  constructor
  · rintro (_ | hv)
    · rfl
    · rw [(h _ _).mp hv]
      rfl
  · rintro rfl
    cases o with
    | none => exact .keep none
    | some b => exact .take ((h _ _).mpr rfl)

def fillSlot (name otherName : String) (convert : Value → Except Cause β) (o : Option β)
    (m : String × Value) : Except Cause (Option β) :=
  if m.1 = name ∨ m.1 = otherName then
    if o.isSome then .error (.duplicateField name) else (convert m.2).map some
  else .ok o

/-- Filling a slot from the members of an object looks only at those of its names. -/
theorem foldlM_fillSlot_iff :
    ms.foldlM (fillSlot name otherName convert) o = .ok o' ↔
      Taken convert o (under name otherName ms) o' := by
  induction ms generalizing o with
  | nil => simp [under, Taken.nil_iff, pure, Except.pure]
  | cons m ms ih =>
    rw [List.foldlM_cons, under_cons, fillSlot]
    split
    · rw [Taken.cons_iff]
      simp only [← ih]
      cases o <;> cases convert m.2 <;> simp [Except.map, bind, Except.bind]
    · exact ih

theorem bind_eq_ok {x : Except ε α} {f : α → Except ε β} {b : β} :
    x.bind f = .ok b ↔ ∃ a, x = .ok a ∧ f a = .ok b := by
  cases x <;> simp [Except.bind]

theorem ok_iff (v w : Value) : (.ok v : Except Cause Value) = .ok w ↔ v = w := by
  rw [Except.ok.injEq]

theorem truthOf_iff (v : Value) (b : Bool) : truthOf v = .ok b ↔ v = .boolean b := by
  cases v <;> simp [truthOf]

theorem optionalTextOf_iff (v : Value) (s : Option String) :
    optionalTextOf v = .ok s ↔ v = textOrNull s := by
  cases v <;> cases s <;> simp [optionalTextOf, textOf, textOrNull, Except.map]

end Switchboard.Json
