import Mathlib.Data.List.TakeWhile
import Switchboard.Address.Reader
import Switchboard.Proofs.Address.Name

namespace Switchboard.Address

variable {before above xs ys : List (List Char)} {step first : List Char} {cs : List Char}

def GoesOn (step : List Char) : Prop := goesUp step = false ∧ stays step = false

def turn (before : List (List Char)) (step : List Char) : List (List Char) :=
  if goesUp step then goUp before else if stays step then before else step :: before

theorem walk_cons_cons (before : List (List Char)) (step next : List Char)
    (steps : List (List Char)) :
    walk before (step :: next :: steps) = walk (turn before step) (next :: steps) := by
  simp only [walk.eq_2 before, turn, reduceCtorEq, if_false, List.nil_append]
  split
  · rfl
  · split <;> rfl

/-- A walk along steps that more follow. -/
theorem walk_append (before xs : List (List Char)) (next : List Char) (ys : List (List Char)) :
    walk before (xs ++ next :: ys) = walk (xs.foldl turn before) (next :: ys) := by
  induction xs generalizing before with
  | nil => rfl
  | cons x xs ih =>
    cases xs with
    | nil => exact walk_cons_cons ..
    | cons y xs =>
      rw [List.cons_append, List.cons_append, walk_cons_cons, ← List.cons_append, ih]
      rfl

theorem walk_of_goesOn (h : GoesOn step) (before steps : List (List Char)) :
    walk before (step :: steps) = walk (step :: before) steps := by
  rw [walk]
  simp [h.1, h.2]

/-- Two last steps that go on are both there in the end. -/
theorem walk_two {a b : List Char} (ha : GoesOn a) (hb : GoesOn b) (before : List (List Char)) :
    walk before [a, b] = before.reverse ++ [a, b] := by
  rw [walk_of_goesOn ha, walk_of_goesOn hb]
  simp [walk]

/-- A step goes on if it ends in neither a dot nor the `e` of a dot written as its byte. -/
theorem goesOn_of_last {c : Char} (h : step.getLast? = some c) (hdot : small c ≠ '.')
    (he : small c ≠ 'e') : GoesOn step := by
  have hlast : (step.map small).getLast? = some (small c) := by rw [List.getLast?_map, h]; rfl
  have hnot : ∀ dots : List Char, dots.getLast? = some '.' ∨ dots.getLast? = some 'e' →
      step.map small ≠ dots := by
    rintro dots hdots rfl
    rw [hlast, Option.some.injEq, Option.some.injEq] at hdots
    exact hdots.elim hdot he
  constructor
  · simp only [goesUp, List.contains_eq_mem, List.mem_cons, List.not_mem_nil, or_false,
      decide_eq_false_iff_not, not_or]
    exact ⟨hnot _ (.inl rfl), hnot _ (.inr rfl), hnot _ (.inl rfl), hnot _ (.inr rfl)⟩
  · simp only [stays, List.contains_eq_mem, List.mem_cons, List.not_mem_nil, or_false,
      decide_eq_false_iff_not, not_or]
    exact ⟨hnot _ (.inl rfl), hnot _ (.inr rfl)⟩

theorem goesOn_of_first {c : Char} (h : step.head? = some c) (hdot : small c ≠ '.')
    (hpercent : small c ≠ '%') : GoesOn step := by
  have hfirst : (step.map small).head? = some (small c) := by rw [List.head?_map, h]; rfl
  have hnot : ∀ dots : List Char, dots.head? = some '.' ∨ dots.head? = some '%' →
      step.map small ≠ dots := by
    rintro dots hdots rfl
    rw [hfirst, Option.some.injEq, Option.some.injEq] at hdots
    exact hdots.elim hdot hpercent
  constructor
  · simp only [goesUp, List.contains_eq_mem, List.mem_cons, List.not_mem_nil, or_false,
      decide_eq_false_iff_not, not_or]
    exact ⟨hnot _ (.inl rfl), hnot _ (.inl rfl), hnot _ (.inr rfl), hnot _ (.inr rfl)⟩
  · simp only [stays, List.contains_eq_mem, List.mem_cons, List.not_mem_nil, or_false,
      decide_eq_false_iff_not, not_or]
    exact ⟨hnot _ (.inl rfl), hnot _ (.inr rfl)⟩

/-- The steps behind the first one that goes up from where nothing is left above the start. Steps
go on from a number of steps above it. Nothing goes up from a drive. -/
def astray : Nat → List (List Char) → Option (List (List Char))
  | _, [] => none
  | height, step :: steps =>
    if goesUp step then
      match height with
      | 0 => some steps
      | height + 1 => astray height steps
    else if stays step then astray height steps
    else if isDrive step then none
    else astray (height + 1) steps

/-- The steps that a walk from the root leaves. A walk that has ended there leaves an empty one. -/
def fromRoot (steps : List (List Char)) : List (List Char) :=
  walk (if steps = [] then [[]] else []) steps

/-- Whatever is below a drive stays. -/
theorem walk_above_drive {drive : List Char} (hdrive : isDrive drive = true)
    (above below steps : List (List Char)) :
    ∃ rest, walk (above ++ drive :: below) steps = below.reverse ++ drive :: rest := by
  induction steps generalizing above with
  | nil => exact ⟨above.reverse, by simp [walk]⟩
  | cons step steps ih =>
    have hup : ∃ above', goUp (above ++ drive :: below) = above' ++ drive :: below := by
      cases above with
      | nil => exact ⟨[], by simp [goUp, hdrive]⟩
      | cons a above =>
        rw [List.cons_append, goUp]
        split
        · exact ⟨a :: above, rfl⟩
        · exact ⟨above, rfl⟩
    rw [walk]
    split
    · obtain ⟨above', hup⟩ := hup
      rw [hup, ← List.append_assoc]
      exact ih _
    · split
      · rw [← List.append_assoc]
        exact ih _
      · exact ih (step :: above)

/-- What is left of a walk from a step: the step first, or a walk from the root. -/
def LeftOf (first : List Char) (left : List (List Char)) : Option (List (List Char)) → Prop
  | none => ∃ rest, left = first :: rest
  | some behind => left = fromRoot behind

theorem astray_cons (height : Nat) (step : List Char) (steps : List (List Char)) :
    astray height (step :: steps) =
      if goesUp step then (if height = 0 then some steps else astray (height - 1) steps)
      else if stays step then astray height steps
      else if isDrive step then none
      else astray (height + 1) steps := by
  cases height <;> rfl

/-- A walk from a step keeps it as the first one, unless it goes astray. -/
theorem walk_leaves (hfirst : isDrive first = false) (habove : ∀ s ∈ above, isDrive s = false)
    (steps : List (List Char)) :
    LeftOf first (walk (above ++ [first]) steps) (astray above.length steps) := by
  induction steps generalizing above with
  | nil => exact ⟨above.reverse, by simp [walk]⟩
  | cons step steps ih =>
    -- An empty step that ends the walk is one more above the first.
    have hending : ∀ {above}, (∀ s ∈ above, isDrive s = false) →
        LeftOf first (walk ((if steps = [] then [[]] else []) ++ (above ++ [first])) steps)
          (astray above.length steps) := by
      intro above habove
      cases steps with
      | nil => exact ⟨above.reverse ++ [[]], by simp [walk]⟩
      | cons next steps => exact ih habove
    rw [astray_cons, walk]
    cases hup : goesUp step with
    | true =>
      cases above with
      | nil =>
        have hgone : goUp [first] = [] := by simp [goUp, hfirst]
        simp [hgone, LeftOf, fromRoot]
      | cons s above =>
        obtain ⟨hs, habove⟩ := List.forall_mem_cons.mp habove
        have hback : goUp (s :: (above ++ [first])) = above ++ [first] := by simp [goUp, hs]
        simpa [hback] using hending habove
    | false =>
      cases hstays : stays step with
      | true => simpa using hending habove
      | false =>
        cases hdrive : isDrive step with
        | true =>
          obtain ⟨rest, hrest⟩ := walk_above_drive hdrive [] (above ++ [first]) steps
          refine ⟨above.reverse ++ step :: rest, ?_⟩
          simpa using hrest
        | false =>
          have hmore : ∀ s ∈ step :: above, isDrive s = false :=
            List.forall_mem_cons.mpr ⟨hdrive, habove⟩
          exact ih hmore

end Switchboard.Address
