import Switchboard.Proofs.Json.Reading

namespace Switchboard.Json

variable {rest : List Char} {v : Value}

/-- A value of another type is refused for its type. -/
theorem mismatch_written (h : v.Regular) (hr : continuesNumber rest = false) (wanted : Wanted) :
    (mismatch wanted (v.chars ++ rest)).cause = .wrongType (.ofValue v) wanted := by
  cases h with
  | null => rfl
  | boolean b => cases b <;> rfl
  | integer n =>
    change (mismatch wanted (intChars n.val ++ rest)).cause = _
    rcases intChars_cases n with ⟨cs, hc, h⟩ | ⟨c, cs, hc, hd, h⟩
    · rw [hc, List.cons_append, mismatch, h.read rest hr]
      rfl
    · rw [hc, List.cons_append, mismatch, if_pos hd, ← List.cons_append, h.read rest hr]
      · rfl
      all_goals exact ne_of_isDigit hd (by decide)
  | string s =>
    rw [Value.chars, stringChars_append, mismatch, stringBody_written]
    simp [refusal, Except.map, Fault.here, Found.ofValue, String.ofList_toList]
  | array =>
    rw [chars_array]
    rfl
  | object =>
    rw [chars_object]
    rfl

theorem intChars_cons (n : Integer) :
    ∃ c cs, intChars n.val = c :: cs ∧ opensValue c ∧ c ∉ ['n', 't', 'f', '"', '[', '{'] := by
  rcases intChars_cases n with ⟨cs, hc, _⟩ | ⟨c, cs, hc, hd, _⟩
  · exact ⟨'-', cs, hc, rfl, by decide⟩
  · refine ⟨c, cs, hc, by simp [opensValue, hd], fun hm => ?_⟩
    simp only [List.mem_cons, List.not_mem_nil, or_false] at hm
    rcases hm with rfl | rfl | rfl | rfl | rfl | rfl <;> exact absurd hd (by decide)

theorem Reads.mismatch {x : Reading α} {wanted : Wanted} (h : v.Regular)
    (hr : continuesNumber rest = false) (hx : x = .error (mismatch wanted (v.chars ++ rest))) :
    Reads rest x (.error (.wrongType (.ofValue v) wanted)) :=
  ⟨_, hx, mismatch_written h hr wanted ▸ .same _⟩

/-- A check that is made of what was read is made of what was converted. -/
theorem Reads.checked {x : Reading α} {y : Except Cause α} (h : Reads rest x y)
    (check : α → Except Cause β) : Reads rest (checked check x) (y.bind check) := by
  cases y with
  | error c =>
    obtain ⟨f, rfl, hc⟩ := h
    exact ⟨f, rfl, hc⟩
  | ok a =>
    have hx : x = .ok (a, rest) := h
    subst hx
    change Reads rest _ (check a)
    rw [Json.checked]
    cases check a with
    | ok b => rfl
    | error c => exact ⟨_, rfl, .same c⟩

/-- An unsigned word, or the refusal of whatever stands in its place. -/
theorem unsigned_reads (h : v.Regular) (hr : continuesNumber rest = false) :
    Reads rest (unsigned.run (v.chars ++ rest)) (unsignedOf v) := by
  cases h with
  | null => exact .mismatch .null hr rfl
  | boolean b => cases b <;> exact .mismatch (.boolean _) hr rfl
  | integer n =>
    have hread : unsigned.run ((Value.number (.integer n)).chars ++ rest) =
        Json.checked wordOfNumber (.ok (.integer n, rest)) := by
      change unsigned.run (intChars n.val ++ rest) = _
      rcases intChars_cases n with ⟨cs, hc, h⟩ | ⟨c, cs, hc, hd, h⟩
      · rw [hc, ← h.read rest hr]
        rfl
      · have hskip : skipSpace (c :: (cs ++ rest)) = c :: (cs ++ rest) :=
          skipSpace_of_opensValue (by simp [opensValue, hd]) _
        rw [hc, ← h.read rest hr, List.cons_append]
        simp only [unsigned, Reader.spaced, hskip]
        split
        · contradiction
        · next he =>
          cases he
          exact absurd hd (by decide)
        · next he =>
          cases he
          rw [if_pos hd]
    rw [hread]
    exact Reads.checked (y := .ok (.integer n)) rfl wordOfNumber
  | string s => exact .mismatch (.string s) hr rfl
  | array hvs => exact .mismatch (.array hvs) hr (by rw [chars_array]; rfl)
  | object hms ho => exact .mismatch (.object hms ho) hr (by rw [chars_object]; rfl)

theorem truth_integer (n : Integer) (rest : List Char) :
    truth.run (intChars n.val ++ rest) =
      .error (mismatch .boolean (intChars n.val ++ rest)) := by
  obtain ⟨c, cs, hc, ho, hm⟩ := intChars_cons n
  rw [hc, List.cons_append]
  simp only [truth, Reader.spaced, skipSpace_of_opensValue ho]
  split
  · contradiction
  · next he =>
    cases he
    simp at hm
  · next he =>
    cases he
    simp at hm
  · rfl

theorem text_integer (n : Integer) (rest : List Char) :
    text.run (intChars n.val ++ rest) = .error (mismatch .string (intChars n.val ++ rest)) := by
  obtain ⟨c, cs, hc, ho, hm⟩ := intChars_cons n
  rw [hc, List.cons_append]
  simp only [text, Reader.spaced, skipSpace_of_opensValue ho]
  split
  · contradiction
  · next he =>
    cases he
    simp at hm
  · rfl

theorem truth_reads (h : v.Regular) (hr : continuesNumber rest = false) :
    Reads rest (truth.run (v.chars ++ rest)) (truthOf v) := by
  cases h with
  | null => exact .mismatch .null hr rfl
  | boolean b => cases b <;> rfl
  | integer n => exact .mismatch (.integer n) hr (truth_integer n rest)
  | string s => exact .mismatch (.string s) hr rfl
  | array hvs => exact .mismatch (.array hvs) hr (by rw [chars_array]; rfl)
  | object hms ho => exact .mismatch (.object hms ho) hr (by rw [chars_object]; rfl)

theorem text_reads (h : v.Regular) (hr : continuesNumber rest = false) :
    Reads rest (text.run (v.chars ++ rest)) (textOf v) := by
  cases h with
  | null => exact .mismatch .null hr rfl
  | boolean b => cases b <;> exact .mismatch (.boolean _) hr rfl
  | integer n => exact .mismatch (.integer n) hr (text_integer n rest)
  | string s =>
    have hread : text.run ((Value.string s).chars ++ rest) =
        (stringBody (s.toList.flatMap escapeChar ++ '"' :: rest)).map
          (Prod.map String.ofList id) := by
      rw [Value.chars, stringChars_append]
      rfl
    rw [hread, stringBody_written]
    simp [Reads, Agrees, Except.map, textOf, String.ofList_toList]
  | array hvs => exact .mismatch (.array hvs) hr (by rw [chars_array]; rfl)
  | object hms ho => exact .mismatch (.object hms ho) hr (by rw [chars_object]; rfl)

/-- No other value begins as `null` does. -/
theorem Value.Regular.chars_cons_of_ne_null (h : v.Regular) (hn : v ≠ .null) :
    ∃ c cs, v.chars = c :: cs ∧ opensValue c ∧ c ≠ 'n' := by
  cases h with
  | null => exact absurd rfl hn
  | boolean b => cases b <;> exact ⟨_, _, rfl, rfl, by decide⟩
  | integer n =>
    obtain ⟨c, cs, hc, ho, hm⟩ := intChars_cons n
    exact ⟨c, cs, hc, ho, fun he => hm (by simp [he])⟩
  | string s => exact ⟨'"', _, rfl, rfl, by decide⟩
  | array => exact ⟨'[', _, chars_array _, rfl, by decide⟩
  | object => exact ⟨'{', _, chars_object _, rfl, by decide⟩

theorem optionalText_other {c : Char} (ho : opensValue c) (hn : c ≠ 'n') (input : List Char) :
    optionalText.run (c :: input) = (text.run (c :: input)).map fun (s, rest) => (some s, rest) := by
  simp only [optionalText, Reader.spaced, skipSpace_of_opensValue ho]
  split
  · next he =>
    cases he
    contradiction
  · rw [Reader.map_run]

theorem optionalText_reads (h : v.Regular) (hr : continuesNumber rest = false) :
    Reads rest (optionalText.run (v.chars ++ rest)) (optionalTextOf v) := by
  by_cases hn : v = .null
  · subst hn
    rfl
  · have hof : optionalTextOf v = (textOf v).map some := by
      cases v <;> first | rfl | contradiction
    obtain ⟨c, cs, hc, ho, hne⟩ := h.chars_cons_of_ne_null hn
    have htext := (text_reads h hr).map some
    rw [hc, List.cons_append] at htext
    rw [hc, List.cons_append, optionalText_other ho hne, hof]
    exact htext

end Switchboard.Json
