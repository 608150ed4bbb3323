import Switchboard.Proofs.Json.Spans

namespace Switchboard.Json

variable {s text rest : List Char}

theorem skipEscaped_followed (h : skipEscaped text = .ok rest) :
    skipEscaped (text ++ s) = .ok (rest ++ s) := by
  cases text with
  | nil => contradiction
  | cons c text =>
    by_cases hc : c = 'u'
    · subst hc
      obtain ⟨⟨n, last⟩, hx, hlast⟩ := map_eq_ok (f := fun p : Nat × List Char => p.2) h
      have hfour := hexFour_lengthened (s := s) text
      rw [hx] at hfour
      subst hlast
      exact congrArg (Except.map fun p : Nat × List Char => p.2) hfour.of_ok
    · rw [List.cons_append, skipEscaped_short hc] at *
      split at h
      · next he =>
        cases h
        rw [if_pos he]
      · contradiction

theorem skipString_followed (h : skipString text = .ok rest) :
    skipString (text ++ s) = .ok (rest ++ s) := by
  fun_induction skipString text with
  | case1 => contradiction
  | case2 tail =>
    cases h
    exact skipString_quote _
  | case3 => contradiction
  | case4 tail tail' he ih =>
    rw [List.cons_append, skipString_escape (skipEscaped_followed he)]
    exact ih h
  | case5 => contradiction
  | case6 c tail hq hb hc ih =>
    rw [List.cons_append, skipString_plain (Nat.le_of_not_lt hc) hq hb]
    exact ih h

theorem skipKey_followed (h : skipKey text = .ok rest) : skipKey (text ++ s) = .ok (rest ++ s) := by
  unfold skipKey at h ⊢
  split at h
  · contradiction
  · next hstring =>
    rw [skipString_followed hstring]
    exact colon_followed h

theorem skipToKey_followed (h : skipToKey text = .ok rest) :
    skipToKey (text ++ s) = .ok (rest ++ s) := by
  unfold skipToKey at h
  split at h
  · contradiction
  · next ht =>
    simp only [skipToKey, skipSpace_append_cons ht]
    exact skipKey_followed h
  · contradiction

section Scalars

variable (hs : continuesNumber s = false)
include hs

theorem skipExponent_followed (h : skipExponent text = .ok rest) :
    skipExponent (text ++ s) = .ok (rest ++ s) := by
  cases text with
  | nil => contradiction
  | cons c text =>
    unfold skipExponent at h ⊢
    rw [exponentSign_append]
    generalize (exponentSign (c :: text)).2 = signed at h ⊢
    cases signed with
    | nil => contradiction
    | cons d tail =>
      simp only [List.cons_append] at h ⊢
      split at h
      · next hd =>
        cases h
        rw [if_pos hd, dropDigits_append_ends hs]
      · contradiction

theorem append_ne_cons {c : Char} (hc : ∀ tail, continuesNumber (c :: tail) = true)
    (h : ∀ tail, text ≠ c :: tail) (tail : List Char) : text ++ s ≠ c :: tail := by
  cases text with
  | nil =>
    rintro rfl
    exact absurd hs (by simp [hc])
  | cons d text =>
    intro he
    cases he
    exact h text rfl

theorem skipExponentOrEnd_followed (h : skipExponentOrEnd text = .ok rest) :
    skipExponentOrEnd (text ++ s) = .ok (rest ++ s) := by
  unfold skipExponentOrEnd at h
  split at h
  · exact skipExponent_followed hs h
  · exact skipExponent_followed hs h
  · next he hE =>
    cases h
    rw [skipExponentOrEnd]
    · exact append_ne_cons hs (fun _ => rfl) he
    · exact append_ne_cons hs (fun _ => rfl) hE

theorem skipAfterInteger_followed (h : skipAfterInteger text = .ok rest) :
    skipAfterInteger (text ++ s) = .ok (rest ++ s) := by
  unfold skipAfterInteger at h
  split at h
  · next tail =>
    rw [List.cons_append, skipAfterInteger, startsWithDigit_append hs]
    split at h
    · next hd =>
      rw [if_pos hd, dropDigits_append_ends hs]
      exact skipExponentOrEnd_followed hs h
    · contradiction
  · next hp =>
    rw [skipAfterInteger_plain (append_ne_cons hs (fun _ => rfl) hp)]
    exact skipExponentOrEnd_followed hs h

theorem skipNumber_followed (h : skipNumber text = .ok rest) :
    skipNumber (text ++ s) = .ok (rest ++ s) := by
  unfold skipNumber at h
  split at h
  · contradiction
  · next tail =>
    rw [List.cons_append, skipNumber, startsWithDigit_append hs]
    split at h
    · contradiction
    · next hd =>
      rw [if_neg hd]
      exact skipAfterInteger_followed hs h
  · next c tail hz =>
    rw [List.cons_append, skipNumber]
    · split at h
      · next hc =>
        rw [if_pos hc, dropDigits_append_ends hs]
        exact skipAfterInteger_followed hs h
      · contradiction
    · exact hz

theorem skipScalar_followed (h : skipScalar text = .ok rest) :
    skipScalar (text ++ s) = .ok (rest ++ s) := by
  unfold skipScalar at h
  split at h
  · contradiction
  · exact (h ▸ word_onward ['u', 'l', 'l'] (by decide) _).of_ok
  · exact (h ▸ word_onward ['r', 'u', 'e'] (by decide) _).of_ok
  · exact (h ▸ word_onward ['a', 'l', 's', 'e'] (by decide) _).of_ok
  · exact skipNumber_followed hs h
  · exact skipString_followed h
  · next c tail hn ht hf hm hq =>
    split at h
    · next hd =>
      rw [List.cons_append, skipScalar_digit hd]
      exact skipNumber_followed hs h
    · contradiction

end Scalars

/-- With more text behind it and more lists and objects around it, what is passed over stays the
same. -/
theorem skipNested_followed (hs : continuesNumber s = false) {nests : List Nest} {stage : Stage}
    (h : skipNested nests stage text = .ok rest) (around : List Nest) :
    skipNested (nests ++ around) stage (text ++ s) = skipNested around .after (rest ++ s) := by
  -- `around` is untouched while the nests within last; only where they run out is it taken up.
  fun_induction skipNested nests stage text with
  | case1 => contradiction
  | case2 nests text tail ht last hn ih =>
    rw [skipNested_list (skipSpace_append_cons ht) (nextItem_followed hn)]
    exact ih h
  | case3 nests text tail ht item hn ih =>
    rw [skipNested_list (skipSpace_append_cons ht) (nextItem_followed hn)]
    exact ih h
  | case4 => contradiction
  | case5 nests text tail ht last hn ih =>
    rw [skipNested_object (skipSpace_append_cons ht) (nextKey_followed hn)]
    exact ih h
  | case6 => contradiction
  | case7 nests text tail ht entry hn item hk ih =>
    rw [skipNested_object (skipSpace_append_cons ht) (nextKey_followed hn)]
    simp only [Turn.followed, passMember, skipKey_followed hk]
    exact ih h
  | case8 => contradiction
  | case9 nests text last hlist hobject hr ih =>
    cases ht : skipSpace text with
    | nil =>
      rw [ht] at hr
      contradiction
    | cons c tail =>
      rw [ht] at hr
      have hr := skipScalar_followed hs hr
      rw [List.cons_append] at hr
      rw [skipNested_scalar (skipSpace_append_cons ht) (fun hc => hlist tail (by rw [ht, hc]))
        (fun hc => hobject tail (by rw [ht, hc])) hr]
      exact ih h
  | case10 =>
    cases h
    rfl
  | case11 => contradiction
  | case12 text outer tail ht ih =>
    rw [List.cons_append, skipNested_comma (skipSpace_append_cons ht)]
    exact ih h
  | case13 text outer tail ht ih =>
    rw [List.cons_append, skipNested_bracket (skipSpace_append_cons ht)]
    exact ih h
  | case14 => contradiction
  | case15 => contradiction
  | case16 => contradiction
  | case17 text outer tail ht item hk ih =>
    rw [List.cons_append, skipNested_key (skipSpace_append_cons ht), skipToKey_followed hk]
    exact ih h
  | case18 text outer tail ht ih =>
    rw [List.cons_append, skipNested_brace (skipSpace_append_cons ht)]
    exact ih h
  | case19 => contradiction

theorem skip_ok : skip.run text = .ok ((), rest) ↔ skipNested [] .value text = .ok rest := by
  simp only [skip]
  cases skipNested [] .value text <;> simp [Except.map]

/-- Passing over a value alone is passing over it inside others. -/
theorem skip_spans : Spans skip := by
  intro nests text a rest h
  have hn := skipNested_followed (s := []) rfl (skip_ok.mp h) nests
  simpa using hn

theorem skip_followed (hs : continuesNumber s = false) (h : skip.run text = .ok ((), rest)) :
    skip.run (text ++ s) = .ok ((), rest ++ s) := by
  have hn := skipNested_followed hs (skip_ok.mp h) []
  rw [skip_ok, ← List.nil_append ([] : List Nest), hn, skipNested]

end Switchboard.Json
