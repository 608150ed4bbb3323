import Switchboard.Json.Reader

/-!
Passing over a value that nobody asks for. Only its lexemes and brackets are checked: numbers may
be out of range, surrogates may stand alone and nesting has no bound.
-/

namespace Switchboard.Json

def skipEscaped : List Char → Except Fault (List Char)
  | [] => .error (.here .unclosedString [])
  | 'u' :: text => (hexFour text).map (·.2)
  | c :: rest =>
    if (shortEscape c).isSome then .ok rest else .error (.next .invalidEscape (c :: rest))

theorem skipEscaped_length {text rest : List Char} (h : skipEscaped text = .ok rest) :
    rest.length < text.length := by
  unfold skipEscaped at h
  split at h
  · contradiction
  · obtain ⟨⟨n, r⟩, hx, hr⟩ := map_eq_ok h
    have := hexFour_length hx
    simp only at hr
    simp only [← hr, List.length_cons]; omega
  · split at h
    · cases h; simp
    · contradiction

set_option linter.unusedVariables false in
def skipString (text : List Char) : Except Fault (List Char) :=
  match text with
  | [] => .error (.here .unclosedString [])
  | '"' :: rest => .ok rest
  | '\\' :: rest =>
    match h : skipEscaped rest with
    | .error f => .error f
    | .ok rest' => skipString rest'
  | c :: rest =>
    if c.toNat < 0x20 then .error (.here .controlCharacter (c :: rest)) else skipString rest
termination_by text.length
decreasing_by
  · have := skipEscaped_length h; simp only [List.length_cons]; omega
  · simp

theorem skipString_length {text rest : List Char} (h : skipString text = .ok rest) :
    rest.length < text.length := by
  fun_induction skipString text with
  | case1 => contradiction
  | case2 => cases h; simp
  | case3 => contradiction
  | case4 tail tail' he ih =>
    have := skipEscaped_length he
    have := ih h
    simp only [List.length_cons]; omega
  | case5 => contradiction
  | case6 c tail _ _ _ ih =>
    have := ih h
    simp only [List.length_cons]; omega

def skipExponent (text : List Char) : Except Fault (List Char) :=
  match (exponentSign text).2 with
  | [] => .error (.here .invalidNumber [])
  | c :: rest =>
    if isDigit c then .ok (dropDigits rest) else .error (.next .invalidNumber (c :: rest))

def skipExponentOrEnd : List Char → Except Fault (List Char)
  | 'e' :: rest => skipExponent rest
  | 'E' :: rest => skipExponent rest
  | rest => .ok rest

def skipAfterInteger : List Char → Except Fault (List Char)
  | '.' :: rest =>
    if startsWithDigit rest then skipExponentOrEnd (dropDigits rest)
    else .error (.next .invalidNumber rest)
  | rest => skipExponentOrEnd rest

def skipNumber : List Char → Except Fault (List Char)
  | [] => .error (.here .invalidNumber [])
  | '0' :: rest =>
    if startsWithDigit rest then .error (.next .invalidNumber rest) else skipAfterInteger rest
  | c :: rest =>
    if isDigit c then skipAfterInteger (dropDigits rest)
    else .error (.next .invalidNumber (c :: rest))

theorem skipExponent_length {text rest : List Char} (h : skipExponent text = .ok rest) :
    rest.length ≤ text.length := by
  have hs := exponentSign_length text
  unfold skipExponent at h
  split at h
  · contradiction
  · rename_i c tail he
    rw [he, List.length_cons] at hs
    split at h
    · cases h
      have := length_dropWhile_le isDigit tail
      simp only [dropDigits]; omega
    · contradiction

theorem skipExponentOrEnd_length {text rest : List Char} (h : skipExponentOrEnd text = .ok rest) :
    rest.length ≤ text.length := by
  unfold skipExponentOrEnd at h
  split at h
  · have := skipExponent_length h; simp only [List.length_cons]; omega
  · have := skipExponent_length h; simp only [List.length_cons]; omega
  · cases h; exact Nat.le_refl _

theorem skipAfterInteger_length {text rest : List Char} (h : skipAfterInteger text = .ok rest) :
    rest.length ≤ text.length := by
  unfold skipAfterInteger at h
  split at h
  · rename_i tail
    split at h
    · have h1 := skipExponentOrEnd_length h
      have h2 := length_dropWhile_le isDigit tail
      simp only [dropDigits] at h1
      simp only [List.length_cons]; omega
    · contradiction
  · exact skipExponentOrEnd_length h

theorem skipNumber_length {text rest : List Char} (h : skipNumber text = .ok rest) :
    rest.length < text.length := by
  unfold skipNumber at h
  split at h
  · contradiction
  · split at h
    · contradiction
    · have := skipAfterInteger_length h; simp only [List.length_cons]; omega
  · rename_i c tail _
    split at h
    · have h1 := skipAfterInteger_length h
      have h2 := length_dropWhile_le isDigit tail
      simp only [dropDigits] at h1
      simp only [List.length_cons]; omega
    · contradiction

def skipScalar : List Char → Except Fault (List Char)
  | [] => .error (.here .missingValue [])
  | 'n' :: rest => word ['u', 'l', 'l'] rest
  | 't' :: rest => word ['r', 'u', 'e'] rest
  | 'f' :: rest => word ['a', 'l', 's', 'e'] rest
  | '-' :: rest => skipNumber rest
  | '"' :: rest => skipString rest
  | c :: rest =>
    if isDigit c then skipNumber (c :: rest) else .error (.next .expectedValue (c :: rest))

def skipKey (text : List Char) : Except Fault (List Char) :=
  match skipString text with
  | .error f => .error f
  | .ok rest => colon rest

def skipToKey (text : List Char) : Except Fault (List Char) :=
  match skipSpace text with
  | [] => .error (.here .unclosedObject [])
  | '"' :: rest => skipKey rest
  | rest => .error (.next .keyNotString rest)

theorem skipScalar_length {text rest : List Char} (h : skipScalar text = .ok rest) :
    rest.length < text.length := by
  unfold skipScalar at h
  split at h
  · contradiction
  · exact Nat.lt_succ_of_le (word_length h)
  · exact Nat.lt_succ_of_le (word_length h)
  · exact Nat.lt_succ_of_le (word_length h)
  · exact Nat.lt_succ_of_lt (skipNumber_length h)
  · exact Nat.lt_succ_of_lt (skipString_length h)
  · split at h
    · exact skipNumber_length h
    · contradiction

theorem skipKey_length {text rest : List Char} (h : skipKey text = .ok rest) :
    rest.length < text.length := by
  unfold skipKey at h
  split at h
  · contradiction
  · rename_i hs
    exact Nat.lt_trans (colon_length h) (skipString_length hs)

theorem skipToKey_length {text rest : List Char} (h : skipToKey text = .ok rest) :
    rest.length < text.length := by
  have hs := skipSpace_length text
  unfold skipToKey at h
  split at h
  · contradiction
  · rename_i ht
    have := skipKey_length h
    rw [ht, List.length_cons] at hs
    omega
  · contradiction

inductive Nest
  | list
  | object

inductive Stage
  | value
  | after

set_option linter.unusedVariables false in
/-- Passes over a value and then over the rest of the lists and objects around it, the innermost
first. -/
def skipNested (nests : List Nest) (stage : Stage) (text : List Char) : Except Fault (List Char) :=
  match stage with
  | .value =>
    match ht : skipSpace text with
    | '[' :: rest =>
      match hn : nextItem true rest with
      | .error f => .error f
      | .ok (.done rest) => skipNested nests .after rest
      | .ok (.entry item) => skipNested (.list :: nests) .value item
    | '{' :: rest =>
      match hn : nextKey true rest with
      | .error f => .error f
      | .ok (.done rest) => skipNested nests .after rest
      | .ok (.entry entry) =>
        match hk : skipKey entry with
        | .error f => .error f
        | .ok item => skipNested (.object :: nests) .value item
    | scalar =>
      match hr : skipScalar scalar with
      | .error f => .error f
      | .ok rest => skipNested nests .after rest
  | .after =>
    match nests with
    | [] => .ok text
    | .list :: outer =>
      match ht : skipSpace text with
      | [] => .error (.here .unclosedList [])
      | ',' :: rest => skipNested (.list :: outer) .value rest
      | ']' :: rest => skipNested outer .after rest
      | rest => .error (.next .expectedCommaOrBracket rest)
    | .object :: outer =>
      match ht : skipSpace text with
      | [] => .error (.here .unclosedObject [])
      | ',' :: rest =>
        match hk : skipToKey rest with
        | .error f => .error f
        | .ok item => skipNested (.object :: outer) .value item
      | '}' :: rest => skipNested outer .after rest
      | rest => .error (.next .expectedCommaOrBrace rest)
termination_by text.length
decreasing_by
  all_goals have hs := skipSpace_length text
  all_goals rw [ht] at hs
  · have := nextItem_length hn; simp only [Turn.text, List.length_cons] at *; omega
  · have := nextItem_length hn; simp only [Turn.text, List.length_cons] at *; omega
  · have := nextKey_length hn; simp only [Turn.text, List.length_cons] at *; omega
  · have := nextKey_length hn
    have := skipKey_length hk
    simp only [Turn.text, List.length_cons] at *; omega
  · have := skipScalar_length hr; omega
  · rw [List.length_cons] at hs; omega
  · rw [List.length_cons] at hs; omega
  · have := skipToKey_length hk; rw [List.length_cons] at hs; omega
  · rw [List.length_cons] at hs; omega

/-- A value that is passed over takes something, and what follows it may take nothing. -/
theorem skipNested_length {nests : List Nest} {stage : Stage} {text rest : List Char}
    (h : skipNested nests stage text = .ok rest) :
    rest.length ≤ text.length ∧ (stage = .value → rest.length < text.length) := by
  fun_induction skipNested nests stage text with
  | case1 => contradiction
  | case2 nests text tail ht last hn ih =>
    have hs := skipSpace_length text
    have := nextItem_length hn
    have := ih h
    rw [ht] at hs
    simp_all only [Turn.text, List.length_cons, forall_const]
    omega
  | case3 nests text tail ht item hn ih =>
    have hs := skipSpace_length text
    have := nextItem_length hn
    have := ih h
    rw [ht] at hs
    simp_all only [Turn.text, List.length_cons, forall_const]
    omega
  | case4 => contradiction
  | case5 nests text tail ht last hn ih =>
    have hs := skipSpace_length text
    have := nextKey_length hn
    have := ih h
    rw [ht] at hs
    simp_all only [Turn.text, List.length_cons, forall_const]
    omega
  | case6 => contradiction
  | case7 nests text tail ht entry hn item hk ih =>
    have hs := skipSpace_length text
    have := nextKey_length hn
    have := skipKey_length hk
    have := ih h
    rw [ht] at hs
    simp_all only [Turn.text, List.length_cons, forall_const]
    omega
  | case8 => contradiction
  | case9 nests text _ _ last hr ih =>
    have hs := skipSpace_length text
    have := skipScalar_length hr
    have := ih h
    omega
  | case10 => cases h; simp
  | case11 => contradiction
  | case12 text _ tail ht ih =>
    have hs := skipSpace_length text
    have := ih h
    rw [ht] at hs
    simp_all only [List.length_cons, forall_const]
    exact ⟨by omega, fun h => by contradiction⟩
  | case13 text _ tail ht ih =>
    have hs := skipSpace_length text
    have := ih h
    rw [ht] at hs
    simp_all only [List.length_cons, forall_const]
    exact ⟨by omega, fun h => by contradiction⟩
  | case14 => contradiction
  | case15 => contradiction
  | case16 => contradiction
  | case17 text _ tail ht item hk ih =>
    have hs := skipSpace_length text
    have := skipToKey_length hk
    have := ih h
    rw [ht] at hs
    simp_all only [List.length_cons, forall_const]
    exact ⟨by omega, fun h => by contradiction⟩
  | case18 text _ tail ht ih =>
    have hs := skipSpace_length text
    have := ih h
    rw [ht] at hs
    simp_all only [List.length_cons, forall_const]
    exact ⟨by omega, fun h => by contradiction⟩
  | case19 => contradiction

def skip : Reader Unit where
  run text := (skipNested [] .value text).map ((), ·)
  consumes h := by
    obtain ⟨a, ha, hf⟩ := map_eq_ok h
    cases hf
    exact (skipNested_length ha).2 rfl

end Switchboard.Json
