import Mathlib.Data.List.DropRight
import Switchboard.Proofs.Json.Reading

namespace Switchboard.Json

variable {text rest : List Char}

inductive NextItem (text : List Char) : Bool → Turn → Prop
  | done {first : Bool} {rest : List Char} (h : skipSpace text = ']' :: rest) :
      NextItem text first (.done rest)
  | first {c : Char} {rest : List Char} (h : skipSpace text = c :: rest) (hc : c ≠ ']') :
      NextItem text true (.entry (c :: rest))
  | further {c : Char} {u rest : List Char} (h : skipSpace text = ',' :: u)
      (hu : skipSpace u = c :: rest) (hc : c ≠ ']') : NextItem text false (.entry (c :: rest))

inductive NextKey (text : List Char) : Bool → Turn → Prop
  | done {first : Bool} {rest : List Char} (h : skipSpace text = '}' :: rest) :
      NextKey text first (.done rest)
  | first {rest : List Char} (h : skipSpace text = '"' :: rest) : NextKey text true (.entry rest)
  | further {u rest : List Char} (h : skipSpace text = ',' :: u) (hu : skipSpace u = '"' :: rest) :
      NextKey text false (.entry rest)

/-- What can come next in a list, without the reader. -/
theorem nextItem_iff {first : Bool} {turn : Turn} :
    nextItem first text = .ok turn ↔ NextItem text first turn := by
  constructor
  · intro h
    unfold nextItem at h
    split at h
    · contradiction
    · cases h
      exact .done ‹_›
    · next hne ht =>
      split at h
      · next hf =>
        cases h
        subst hf
        exact .first ht hne
      · next hf =>
        simp only [Bool.not_eq_true] at hf
        subst hf
        split at h
        · next hc =>
          subst hc
          split at h
          · contradiction
          · contradiction
          · next hnil hbracket =>
            cases h
            cases hu : skipSpace _ with
            | nil => exact absurd hu hnil
            | cons c rest =>
              exact .further ht hu fun hc => hbracket rest (by rw [hu, hc])
        · contradiction
  · rintro (h | ⟨h, hc⟩ | ⟨h, hu, hc⟩)
    · simp [nextItem, h]
    · simp [nextItem, h]
    · simp [nextItem, h, hu, hc]

theorem nextKey_iff {first : Bool} {turn : Turn} :
    nextKey first text = .ok turn ↔ NextKey text first turn := by
  constructor
  · intro h
    unfold nextKey at h
    split at h
    · contradiction
    · cases h
      exact .done ‹_›
    · next hne ht =>
      split at h
      · next hf =>
        subst hf
        split at h
        · next hc =>
          cases h
          subst hc
          exact .first ht
        · contradiction
      · next hf =>
        simp only [Bool.not_eq_true] at hf
        subst hf
        split at h
        · next hc =>
          subst hc
          split at h
          · contradiction
          · cases h
            exact .further ht ‹_›
          · contradiction
          · contradiction
        · contradiction
  · rintro (h | h | ⟨h, hu⟩)
    · simp [nextKey, h]
    · simp [nextKey, h]
    · simp [nextKey, h, hu]

theorem colon_iff : colon text = .ok rest ↔ skipSpace text = ':' :: rest := by
  constructor
  · intro h
    unfold colon at h
    split at h
    · contradiction
    · cases h
      assumption
    · contradiction
  · intro h
    simp [colon, h]

theorem skipSpace_skipSpace (text : List Char) : skipSpace (skipSpace text) = skipSpace text :=
  List.dropWhile_idempotent ..

theorem mem_of_skipSpace {c : Char} (h : skipSpace text = c :: rest) : c ∈ text := by
  have hc : c ∈ skipSpace text := h ▸ List.mem_cons_self
  exact (List.dropWhile_sublist isSpace).subset hc

variable {first : Bool} {f : Fault}

theorem items_fault {item : Reader α} (h : nextItem first text = .error f) :
    items item first text = .error f := by
  rw [items]
  split <;> simp_all

theorem membersInto_fault {member : σ → String → Reader σ} {acc : σ}
    (h : nextKey first text = .error f) : membersInto member acc first text = .error f := by
  rw [membersInto]
  split <;> simp_all

theorem membersInto_key_fault {member : σ → String → Reader σ} {acc : σ} {entry : List Char}
    (h : nextKey first text = .ok (.entry entry)) (hk : key entry = .error f) :
    membersInto member acc first text = .error f := by
  rw [membersInto]
  split <;> rename_i he <;> rw [h] at he <;> cases he
  split <;> rename_i he <;> rw [hk] at he <;> cases he
  rfl

inductive ItemsRead (item : Reader α) : Bool → List Char → List α → List Char → Prop
  | done {first : Bool} {text rest : List Char} (ht : nextItem first text = .ok (.done rest)) :
      ItemsRead item first text [] rest
  | entry {first : Bool} {text entry tail rest : List Char} {a : α} {as : List α}
      (ht : nextItem first text = .ok (.entry entry)) (ha : item.run entry = .ok (a, tail))
      (has : ItemsRead item false tail as rest) : ItemsRead item first text (a :: as) rest

/-- How the members of an object are read into what was collected. -/
inductive MembersRead (member : σ → String → Reader σ) :
    σ → Bool → List Char → σ → List Char → Prop
  | done {first : Bool} {text rest : List Char} {acc : σ}
      (ht : nextKey first text = .ok (.done rest)) : MembersRead member acc first text acc rest
  | entry {first : Bool} {text entry value tail rest : List Char} {k : String} {acc acc' last : σ}
      (ht : nextKey first text = .ok (.entry entry)) (hk : key entry = .ok (k, value))
      (hm : (member acc k).run value = .ok (acc', tail))
      (hms : MembersRead member acc' false tail last rest) :
      MembersRead member acc first text last rest

/-- The items of a list are read just as they stand in it, turn by turn. -/
theorem items_iff {item : Reader α} {as : List α} :
    items item first text = .ok (as, rest) ↔ ItemsRead item first text as rest := by
  constructor
  · intro h
    fun_induction items item first text generalizing as rest with
    | case1 => contradiction
    | case2 first text last ht =>
      cases h
      exact .done ht
    | case3 => contradiction
    | case4 => contradiction
    | case5 first text entry ht a tail ha as' last has ih =>
      cases h
      exact .entry ht ha (ih has)
  · intro h
    induction h with
    | done ht => exact items_done ht
    | entry ht ha _ ih =>
      rw [items_entry ht, ha]
      simp only [ih]
      rfl

theorem membersInto_iff {member : σ → String → Reader σ} {acc last : σ} :
    membersInto member acc first text = .ok (last, rest) ↔
      MembersRead member acc first text last rest := by
  constructor
  · intro h
    fun_induction membersInto member acc first text with
    | case1 => contradiction
    | case2 acc first text behind ht =>
      cases h
      exact .done ht
    | case3 => contradiction
    | case4 => contradiction
    | case5 acc first text entry ht k value hk acc' tail hm ih => exact .entry ht hk hm (ih h)
  · intro h
    induction h with
    | done ht => exact membersInto_done ht
    | entry ht hk hm _ ih =>
      rw [membersInto_entry ht hk, hm]
      exact ih

end Switchboard.Json
