import Switchboard.Json.Printer
import Switchboard.Json.Skip

namespace Switchboard.Json

variable {rest : List Char}

theorem hexValue_hexDigit : ∀ n < 16, hexValue (hexDigit n) = some n := by decide

theorem hexDigit_printable : ∀ n < 16, 0x20 ≤ (hexDigit n).toNat := by decide

theorem hexFour_control {n : Nat} (h : n < 0x20) (rest : List Char) :
    hexFour ('0' :: '0' :: hexDigit (n / 16) :: hexDigit (n % 16) :: rest) = .ok (n, rest) := by
  have hz : hexValue '0' = some 0 := hexValue_hexDigit 0 (by omega)
  have hh : hexValue (hexDigit (n / 16)) = some (n / 16) := hexValue_hexDigit _ (by omega)
  have hl : hexValue (hexDigit (n % 16)) = some (n % 16) := hexValue_hexDigit _ (by omega)
  have hn : ((0 * 16 + 0) * 16 + n / 16) * 16 + n % 16 = n := by omega
  simp only [hexFour, hz, hh, hl, hn]

/-- A control character reads back from its code unit. -/
theorem codeUnit_control {c : Char} (h : c.toNat < 0x20) (rest : List Char) :
    codeUnit ('0' :: '0' :: hexDigit (c.toNat / 16) :: hexDigit (c.toNat % 16) :: rest) =
      .ok (c, rest) := by
  have ht : isTrailing c.toNat = false := by simp [isTrailing]; omega
  have hl : isLeading c.toNat = false := by simp [isLeading]; omega
  simp [codeUnit, hexFour_control h, ht, hl, Char.ofNat_toNat]

/-- An escape of a character, behind its backslash: it has no control characters, and whoever reads
it or passes over it is right behind it. -/
structure Escapes (es : List Char) (c : Char) : Prop where
  printable : ∀ e ∈ es, 0x20 ≤ e.toNat
  read : ∀ rest, escaped (es ++ rest) = .ok (c, rest)
  skipped : ∀ rest, skipEscaped (es ++ rest) = .ok rest

/-- A character is written as an escape or, if nothing speaks against it, as it is. -/
theorem escapeChar_cases (c : Char) :
    (∃ es, escapeChar c = '\\' :: es ∧ Escapes es c) ∨
    (escapeChar c = [c] ∧ 0x20 ≤ c.toNat ∧ c ≠ '"' ∧ c ≠ '\\') := by
  by_cases hshort : c ∈ ['"', '\\', '\x08', '\t', '\n', '\x0c', '\r']
  · left
    simp only [List.mem_cons, List.not_mem_nil, or_false] at hshort
    rcases hshort with h | h | h | h | h | h | h <;> subst h <;>
      exact ⟨_, rfl, by simp, fun _ => rfl, fun _ => rfl⟩
  simp only [List.mem_cons, List.not_mem_nil, or_false, not_or] at hshort
  obtain ⟨h1, h2, h3, h4, h5, h6, h7⟩ := hshort
  by_cases hc : c.toNat < 0x20
  · left
    have hh := hexDigit_printable (c.toNat / 16) (by omega)
    have hl := hexDigit_printable (c.toNat % 16) (by omega)
    refine ⟨['u', '0', '0', hexDigit (c.toNat / 16), hexDigit (c.toNat % 16)], ?_, ?_, ?_, ?_⟩
    · simp [escapeChar, h1, h2, h3, h4, h5, h6, h7, hc]
    · simp [hh, hl]
    · exact fun rest => codeUnit_control hc rest
    · exact fun rest => congrArg (Except.map _) (hexFour_control hc rest)
  · right
    exact ⟨by simp [escapeChar, h1, h2, h3, h4, h5, h6, h7, hc], by omega, h1, h2⟩

theorem stringBody_escape {c : Char} {text : List Char} (h : escaped text = .ok (c, rest)) :
    stringBody ('\\' :: text) = (stringBody rest).map fun (cs, rest) => (c :: cs, rest) := by
  rw [stringBody]
  split
  · rename_i he
    rw [h] at he
    cases he
  · rename_i he
    rw [h] at he
    cases he
    cases stringBody rest <;> rfl

theorem stringBody_plain {c : Char} (hc : 0x20 ≤ c.toNat) (hq : c ≠ '"') (hb : c ≠ '\\')
    (text : List Char) :
    stringBody (c :: text) = (stringBody text).map fun (cs, rest) => (c :: cs, rest) := by
  rw [stringBody, if_neg (Nat.not_lt.mpr hc)]
  · cases stringBody text <;> rfl
  · exact fun h => hq h
  · exact fun h => hb h

theorem skipString_escape {text : List Char} (h : skipEscaped text = .ok rest) :
    skipString ('\\' :: text) = skipString rest := by
  rw [skipString]
  split
  · rename_i he
    rw [h] at he
    cases he
  · rename_i he
    rw [h] at he
    cases he
    rfl

theorem skipString_plain {c : Char} (hc : 0x20 ≤ c.toNat) (hq : c ≠ '"') (hb : c ≠ '\\')
    (text : List Char) : skipString (c :: text) = skipString text := by
  rw [skipString, if_neg (Nat.not_lt.mpr hc)]
  · exact fun h => hq h
  · exact fun h => hb h

/-- The characters of a string read back. -/
theorem stringBody_written (s rest : List Char) :
    stringBody (s.flatMap escapeChar ++ '"' :: rest) = .ok (s, rest) := by
  induction s with
  | nil => rw [List.flatMap_nil, List.nil_append, stringBody]
  | cons c s ih =>
    rw [List.flatMap_cons, List.append_assoc]
    rcases escapeChar_cases c with ⟨es, he, h⟩ | ⟨he, hc, hq, hb⟩
    · rw [he, List.cons_append, stringBody_escape (h.read _), ih]
      rfl
    · rw [he, List.singleton_append, stringBody_plain hc hq hb, ih]
      rfl

theorem skipString_written (s rest : List Char) :
    skipString (s.flatMap escapeChar ++ '"' :: rest) = .ok rest := by
  induction s with
  | nil => rw [List.flatMap_nil, List.nil_append, skipString]
  | cons c s ih =>
    rw [List.flatMap_cons, List.append_assoc]
    rcases escapeChar_cases c with ⟨es, he, h⟩ | ⟨he, hc, hq, hb⟩
    · rw [he, List.cons_append, skipString_escape (h.skipped _), ih]
    · rw [he, List.singleton_append, skipString_plain hc hq hb, ih]

theorem stringChars_append (s rest : List Char) :
    stringChars s ++ rest = '"' :: (s.flatMap escapeChar ++ '"' :: rest) := by
  simp [stringChars]

theorem key_written (k : String) (rest : List Char) :
    key (k.toList.flatMap escapeChar ++ '"' :: rest) = .ok (k, rest) := by
  simp only [key, stringBody_written, String.ofList_toList]

/-- Control characters never stand in a written string as they are. -/
theorem stringChars_printable (s : List Char) : ∀ c ∈ stringChars s, 0x20 ≤ c.toNat := by
  have hescape : ∀ d, ∀ c ∈ escapeChar d, 0x20 ≤ c.toNat := by
    intro d
    rcases escapeChar_cases d with ⟨es, he, h⟩ | ⟨he, hd, _⟩
    · rw [he]
      exact List.forall_mem_cons.mpr ⟨by decide, h.printable⟩
    · simpa [he] using hd
  intro c hc
  simp only [stringChars, List.cons_append, List.mem_cons, List.mem_append, List.mem_flatMap,
    List.not_mem_nil, or_false] at hc
  rcases hc with rfl | ⟨d, _, hc⟩ | rfl
  · decide
  · exact hescape d c hc
  · decide

def continuesNumber : List Char → Bool
  | c :: _ => isDigit c || c = '.' || c = 'e' || c = 'E'
  | [] => false

theorem startsWithDigit_of_ends (h : continuesNumber rest = false) :
    startsWithDigit rest = false := by
  cases rest with
  | nil => rfl
  | cons c rest =>
    simp only [continuesNumber, Bool.or_eq_false_iff] at h
    exact h.1.1.1

theorem afterInteger_ends (h : continuesNumber rest = false) (negative : Bool) (m : Nat) :
    afterInteger negative m rest = .ok (wholeNumber negative m, rest) := by
  unfold afterInteger
  split <;> first | rfl | cases h

theorem skipAfterInteger_ends (h : continuesNumber rest = false) :
    skipAfterInteger rest = .ok rest := by
  unfold skipAfterInteger skipExponentOrEnd
  split
  · cases h
  · split <;> first | rfl | cases h

theorem le_ofDigitChars (m : Nat) (ds : List Char) : m ≤ Nat.ofDigitChars 10 ds m := by
  have hpos : 0 < 10 ^ ds.length := Nat.pow_pos (by omega)
  calc
    m ≤ 10 ^ ds.length * m := Nat.le_mul_of_pos_left m hpos
    _ ≤ 10 ^ ds.length * m + Nat.ofDigitChars 10 ds 0 := Nat.le_add_right _ _
    _ = Nat.ofDigitChars 10 ds m := Nat.ofDigitChars_eq_ofDigitChars_zero.symm

/-- Digits are taken in as long as the number they make is below `2 ^ 64`. -/
theorem absorb_digits {ds : List Char} {m : Nat} (hd : ∀ d ∈ ds, isDigit d)
    (hr : startsWithDigit rest = false) (hm : Nat.ofDigitChars 10 ds m < 0x10000000000000000) :
    absorb m (ds ++ rest) = (Nat.ofDigitChars 10 ds m, rest) := by
  induction ds generalizing m with
  | nil =>
    cases rest with
    | nil => rfl
    | cons c rest =>
      rw [startsWithDigit] at hr
      simp [absorb, hr, Nat.ofDigitChars_nil]
  | cons d ds ih =>
    have hstep : 10 * m + (d.toNat - '0'.toNat) = m * 10 + digitValue d := by
      rw [Nat.mul_comm]
      rfl
    rw [Nat.ofDigitChars_cons, hstep] at hm ⊢
    have hlt := Nat.lt_of_le_of_lt (le_ofDigitChars _ ds) hm
    have hdigit : isDigit d := hd d (by simp)
    simp only [List.cons_append, absorb, hdigit, hlt, decide_true, Bool.and_self, if_true]
    exact ih (fun d h => hd d (by simp [h])) hm

theorem dropDigits_of_ends (hr : startsWithDigit rest = false) : dropDigits rest = rest := by
  cases rest with
  | nil => rfl
  | cons c rest => exact List.dropWhile_cons_of_neg (by simpa [startsWithDigit] using hr)

theorem dropDigits_append {ds : List Char} (hd : ∀ d ∈ ds, isDigit d)
    (hr : startsWithDigit rest = false) : dropDigits (ds ++ rest) = rest := by
  unfold dropDigits
  rw [List.dropWhile_append_of_pos hd]
  exact dropDigits_of_ends hr

theorem natChars_digits (n : Nat) : ∀ c ∈ natChars n, isDigit c := fun _ hc =>
  Nat.isDigit_of_mem_toDigits (by omega) (by omega) hc

theorem natChars_cons (n : Nat) : ∃ c ds, natChars n = c :: ds ∧ isDigit c := by
  cases h : natChars n with
  | nil => exact absurd h Nat.toDigits_ne_nil
  | cons c ds => exact ⟨c, ds, rfl, natChars_digits n c (by simp [h])⟩

theorem ne_of_isDigit {c e : Char} (hc : isDigit c) (he : isDigit e = false) : c ≠ e := by
  rintro rfl
  rw [hc] at he
  cases he

/-- A positive number is not written with a zero in front. -/
theorem natChars_cons_pos {n : Nat} (hn : 0 < n) : ∃ c ds, natChars n = c :: ds ∧ c ≠ '0' := by
  induction n using Nat.strongRecOn with
  | ind n ih =>
    unfold natChars at ih ⊢
    by_cases hlt : n < 10
    · refine ⟨n.digitChar, [], Nat.toDigits_of_lt_base hlt, ?_⟩
      rw [ne_eq, Nat.digitChar_eq_zero]
      omega
    · obtain ⟨c, ds, h, hc⟩ := ih (n / 10) (by omega) (by omega)
      refine ⟨c, ds ++ [(n % 10).digitChar], ?_, hc⟩
      rw [Nat.toDigits_of_base_le (by omega) (by omega), h, List.cons_append]

/-- The digits of a number below `2 ^ 64` read back, under the sign that came before them. -/
theorem number_natChars {n : Nat} (hn : n < 0x10000000000000000)
    (hr : continuesNumber rest = false) (negative : Bool) :
    number negative (natChars n ++ rest) = .ok (wholeNumber negative n, rest) := by
  have hs := startsWithDigit_of_ends hr
  rcases Nat.eq_zero_or_pos n with rfl | hpos
  · simp [natChars, Nat.toDigits_zero, number, hs, afterInteger_ends hr]
  · obtain ⟨c, ds, h, hc⟩ := natChars_cons_pos hpos
    have hd : ∀ d ∈ c :: ds, isDigit d := h ▸ natChars_digits n
    have hdigit : isDigit c := hd c (by simp)
    have hv : Nat.ofDigitChars 10 ds (digitValue c) = n := by
      have he : Nat.ofDigitChars 10 (c :: ds) 0 = n := h ▸ Nat.ofDigitChars_ten_toDigits
      rw [Nat.ofDigitChars_cons] at he
      simpa [digitValue] using he
    have ha : absorb (digitValue c) (ds ++ rest) = (n, rest) := by
      rw [absorb_digits (fun d hx => hd d (by simp [hx])) hs (by rw [hv]; exact hn), hv]
    rw [h, List.cons_append, number]
    · simp [hdigit, ha, hs, afterInteger_ends hr]
    · exact hc

/-- The digits of a number are passed over, however many there are. -/
theorem skipNumber_natChars (n : Nat) (hr : continuesNumber rest = false) :
    skipNumber (natChars n ++ rest) = .ok rest := by
  have hs := startsWithDigit_of_ends hr
  rcases Nat.eq_zero_or_pos n with rfl | hpos
  · simp [natChars, Nat.toDigits_zero, skipNumber, hs, skipAfterInteger_ends hr]
  · obtain ⟨c, ds, h, hc⟩ := natChars_cons_pos hpos
    have hd : ∀ d ∈ c :: ds, isDigit d := h ▸ natChars_digits n
    have hdigit : isDigit c := hd c (by simp)
    rw [h, List.cons_append, skipNumber]
    · rw [if_pos hdigit, dropDigits_append (fun d hx => hd d (by simp [hx])) hs,
        skipAfterInteger_ends hr]
    · exact hc

theorem wholeNumber_nonneg {n : Integer} (h : 0 ≤ n.val) :
    wholeNumber false n.val.toNat = .integer n := by
  have hu := n.upper
  have hlt : n.val.toNat < 0x10000000000000000 := by omega
  have hn : Integer.ofNat n.val.toNat hlt = n := by
    simp [Integer.ofNat, Int.toNat_of_nonneg h]
  simp [wholeNumber, hlt, hn]

/-- A negative integer is made of its digits, down to the least one. -/
theorem wholeNumber_neg {n : Integer} (h : n.val < 0) :
    wholeNumber true n.val.natAbs = .integer n := by
  have hl := n.lower
  have hb : 0 < n.val.natAbs ∧ n.val.natAbs ≤ 0x8000000000000000 := by omega
  have hv : -(n.val.natAbs : Int) = n.val := by omega
  have hn : Integer.negOfNat n.val.natAbs hb.2 = n := by
    cases n
    simpa [Integer.negOfNat] using hv
  rw [wholeNumber, if_pos rfl, dif_pos hb, hn]

/-- The text of an integer, behind its sign: it reads back, and whoever passes over it is right
behind it. -/
structure Spells (negative : Bool) (text : List Char) (n : Integer) : Prop where
  read : ∀ rest, continuesNumber rest = false →
    number negative (text ++ rest) = .ok (.integer n, rest)
  skipped : ∀ rest, continuesNumber rest = false → skipNumber (text ++ rest) = .ok rest

/-- An integer is written with a minus sign in front or with a digit. -/
theorem intChars_cases (n : Integer) :
    (∃ cs, intChars n.val = '-' :: cs ∧ Spells true cs n) ∨
    (∃ c cs, intChars n.val = c :: cs ∧ isDigit c ∧ Spells false (c :: cs) n) := by
  have hl := n.lower
  have hu := n.upper
  unfold intChars
  split
  · rename_i hneg
    refine .inl ⟨_, rfl, fun rest hr => ?_, fun rest hr => skipNumber_natChars _ hr⟩
    rw [number_natChars (by omega) hr, wholeNumber_neg hneg]
  · rename_i hpos
    obtain ⟨c, cs, hc, hd⟩ := natChars_cons n.val.toNat
    refine .inr ⟨c, cs, hc, hd, fun rest hr => ?_, fun rest hr => ?_⟩
    · rw [← hc, number_natChars (by omega) hr, wholeNumber_nonneg (by omega)]
    · rw [← hc, skipNumber_natChars _ hr]

theorem natChars_printable (n : Nat) : ∀ c ∈ natChars n, 0x20 ≤ c.toNat := by
  intro c hc
  have hd := natChars_digits n c hc
  simp only [isDigit, Bool.and_eq_true, decide_eq_true_eq] at hd
  exact Nat.le_trans (by decide) (show ('0' : Char).toNat ≤ c.toNat from hd.1)

end Switchboard.Json
