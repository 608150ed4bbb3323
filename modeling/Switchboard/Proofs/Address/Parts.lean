import Switchboard.Proofs.Address.Authority
import Switchboard.Proofs.Address.Path

namespace Switchboard.Address

variable {cs xs ys rest : List Char} {c d : Char}

def unbroken (cs : List Char) : List Char :=
  cs.filter fun c => c != '\t' && c != '\n' && c != '\r'

theorem unbroken_append (xs ys : List Char) : unbroken (xs ++ ys) = unbroken xs ++ unbroken ys :=
  List.filter_append ..

def ending (cs : List Char) : List Char := unbroken (dropEdgeEnd cs)

theorem dropEdgeEnd_append (hc : isEdge c = false) (xs ys : List Char) :
    dropEdgeEnd (xs ++ c :: ys) = xs ++ c :: dropEdgeEnd ys := by
  have hlast : dropEdgeEnd (c :: ys) = c :: dropEdgeEnd ys := by
    rw [dropEdgeEnd]
    cases dropEdgeEnd ys with
    | nil => simp [hc]
    | cons => rfl
  induction xs with
  | nil => exact hlast
  | cons x xs ih =>
    rw [List.cons_append, dropEdgeEnd, ih]
    cases xs with
    | nil => rfl
    | cons => rfl

/-- Between two characters that are no edges, only tabs and line breaks are lost. -/
theorem essence_append (hd : isEdge d = false) (hc : isEdge c = false) (xs ys : List Char) :
    essence (d :: xs ++ c :: ys) = unbroken (d :: xs ++ [c]) ++ ending ys := by
  have hkept : (d :: xs ++ c :: ys).dropWhile isEdge = d :: xs ++ c :: ys := by simp [hd]
  have hsplit : d :: xs ++ c :: dropEdgeEnd ys = (d :: xs ++ [c]) ++ dropEdgeEnd ys := by simp
  rw [essence, hkept, dropEdgeEnd_append hc, hsplit]
  exact unbroken_append ..

/-- Where a path stops, no query and no fragment follow if it stops at the end. -/
theorem readTrailer_none : readTrailer true (cs.dropWhile fun c => c != '?' && c != '#') =
    (none, none) ↔ ∀ c ∈ cs, c ≠ '?' ∧ c ≠ '#' := by
  induction cs with
  | nil => simp [readTrailer]
  | cons c cs ih =>
    by_cases hq : c = '?'
    · subst hq
      simp [readTrailer]
    · by_cases hh : c = '#'
      · subst hh
        simp [readTrailer]
      · rw [List.dropWhile_cons_of_pos (by simp [hq, hh]), ih]
        simp [hq, hh]

/-- What is left behind a path. -/
theorem pathAfter_rest (hd : endsPart true d = true) (ys : List Char) :
    (pathAfter true (d :: ys)).2 = (d :: ys).dropWhile fun c => c != '?' && c != '#' := by
  have hends : d = '/' ∨ d = '\\' ∨ d = '?' ∨ d = '#' := by simpa using endsPart_iff.mp hd
  rcases hends with rfl | rfl | rfl | rfl <;> rfl

/-- Behind a slash, a text without a query and a fragment is all path. -/
theorem pathAfter_slash (hd : isSlash true d = true) (hys : ∀ c ∈ ys, c ≠ '?' ∧ c ≠ '#') :
    (pathAfter true (d :: ys)).1 = pathOf (steps true ys) := by
  have htake : ys.takeWhile (fun c => c != '?' && c != '#') = ys :=
    List.takeWhile_eq_self_iff.mpr fun c hc => by simp [hys c hc]
  simp [pathAfter, hd, readPath, htake]

theorem percentEncode_of_plain {set : Char → Bool} (h : ∀ c ∈ cs, c.toNat < 0x80 ∧ set c = false) :
    percentEncode set cs = cs := by
  induction cs with
  | nil => rfl
  | cons c cs ih =>
    obtain ⟨⟨hc, hset⟩, hcs⟩ := List.forall_mem_cons.mp h
    have hplain : (0x80 ≤ c.toNat || set c) = false := by simp [hset, hc]
    have hrest : percentEncode set (c :: cs) = [c] ++ percentEncode set cs := by
      rw [percentEncode, List.flatMap_cons, hplain]
      rfl
    rw [hrest, ih hcs]
    rfl

theorem digit_plain (h : c.isDigit = true) :
    c.toNat < 0x80 ∧ offPath c = false ∧ small c = c ∧ isSlash true c = false := by
  have hrange : 0x30 ≤ c.toNat ∧ c.toNat ≤ 0x39 := by
    simpa [Char.isDigit, Char.le_def, UInt32.le_iff_toNat_le] using h
  have hne : ∀ d : Char, d.toNat < 0x30 ∨ 0x39 < d.toNat → c ≠ d := by
    rintro d hd rfl
    omega
  refine ⟨by omega, ?_, ?_, ?_⟩
  · have hcontrol : isControl c = false := by
      simp only [isControl, Bool.or_eq_false_iff, decide_eq_false_iff_not, beq_eq_false_iff_ne]
      omega
    simp only [offPath, offFragment, hcontrol, List.contains_eq_mem, List.mem_cons,
      List.not_mem_nil, or_false, Bool.false_or, Bool.or_eq_false_iff, decide_eq_false_iff_not,
      not_or]
    exact ⟨⟨hne _ (by decide), hne _ (by decide), hne _ (by decide), hne _ (by decide),
      hne _ (by decide)⟩, hne _ (by decide), hne _ (by decide), hne _ (by decide),
      hne _ (by decide)⟩
  · have hsmall : ¬('A' ≤ c ∧ c ≤ 'Z') := by
      simp only [Char.le_def, UInt32.le_iff_toNat_le]
      intro hcapital
      have hlow : 0x41 ≤ c.toNat := hcapital.1
      omega
    rw [small, if_neg hsmall]
  · have hslash := (ne_of_isDigit h).2.2.2
    rw [endsPart, Bool.or_assoc, Bool.or_eq_false_iff] at hslash
    exact hslash.1

/-- What stands behind a port comes to light in the steps of the path. -/
theorem steps_behind_port (cs : List Char) (n : Nat) :
    2 ≤ (steps true (cs ++ ':' :: (Nat.toDigits 10 n ++ "/ctl".toList))).length := by
  have hdigits : ∀ c ∈ Nat.toDigits 10 n, c.isDigit = true := fun c => isDigit_of_mem_toDigits
  have hunmarked : ∀ c ∈ ':' :: Nat.toDigits 10 n, isSlash true c = false :=
    List.forall_mem_cons.mpr ⟨by decide, fun c hc => (digit_plain (hdigits c hc)).2.2.2⟩
  obtain ⟨pieces, piece, hpieces⟩ := splitAt_append_of_unmarked hunmarked cs
  have hsplit : splitAt (isSlash true) (cs ++ ':' :: (Nat.toDigits 10 n ++ "/ctl".toList)) =
      pieces ++ [piece ++ ':' :: Nat.toDigits 10 n, "ctl".toList] := by
    have htext : cs ++ ':' :: (Nat.toDigits 10 n ++ "/ctl".toList) =
        (cs ++ ':' :: Nat.toDigits 10 n) ++ '/' :: "ctl".toList := by simp
    have hctl : splitAt (isSlash true) "ctl".toList = ["ctl".toList] := by decide
    rw [htext, splitAt_append_cons rfl, hpieces, hctl, List.append_assoc]
    rfl
  -- The step with the port ends in a digit, so that nothing goes up from it.
  have hport : GoesOn (percentEncode offPath (piece ++ ':' :: Nat.toDigits 10 n)) := by
    have hplain : percentEncode offPath (':' :: Nat.toDigits 10 n) = ':' :: Nat.toDigits 10 n :=
      percentEncode_of_plain (List.forall_mem_cons.mpr ⟨by decide, fun c hc =>
        ⟨(digit_plain (hdigits c hc)).1, (digit_plain (hdigits c hc)).2.1⟩⟩)
    have hlast : (percentEncode offPath (piece ++ ':' :: Nat.toDigits 10 n)).getLast? =
        (Nat.toDigits 10 n).getLast? := by
      rw [percentEncode, List.flatMap_append]
      change (percentEncode offPath piece ++
        percentEncode offPath (':' :: Nat.toDigits 10 n)).getLast? = _
      rw [hplain, List.getLast?_append_of_ne_nil _ (by simp),
        List.getLast?_cons_of_ne_nil Nat.toDigits_ne_nil]
    obtain ⟨c, hc⟩ : ∃ c, (Nat.toDigits 10 n).getLast? = some c :=
      ⟨_, List.getLast?_eq_some_getLast Nat.toDigits_ne_nil⟩
    have hdigit := hdigits c (List.mem_of_getLast? hc)
    rw [hc] at hlast
    refine goesOn_of_last hlast ?_ ?_ <;>
    · rw [(digit_plain hdigit).2.2.1]
      rintro rfl
      cases hdigit
  have hctl : percentEncode offPath "ctl".toList = "ctl".toList := by decide
  have hend : GoesOn "ctl".toList := by constructor <;> decide
  rw [steps, hsplit, List.map_append, List.map_cons, List.map_cons, List.map_nil, hctl,
    walk_append, walk_two hport hend]
  simp

/-- The address with an authority, a path and what follows. -/
def withRest (a : Authority) (cs : List Char) : Address :=
  let (path, rest) := pathAfter true cs
  let (query, fragment) := readTrailer true rest
  { scheme := "ws", authority := some a, path, query, fragment }

theorem scheme?_ws (rest : List Char) :
    scheme? ('w' :: 's' :: ':' :: rest) = some ("ws", rest) := rfl

/-- An address is its authority, which is read by itself, with the rest. -/
theorem ofChars_ws (he : essence cs = 'w' :: 's' :: ':' :: rest)
    (hrest : rest.dropWhile (isSlash true) = xs ++ d :: ys) (hxs : Unended xs)
    (hd : endsPart true d = true) :
    ofChars cs = (readAuthority "ws" xs).map fun r => withRest r.1 (d :: ys) := by
  simp only [ofChars, he, scheme?_ws, readPlace, isSpecial_ws, hrest, readAuthority_append hxs hd]
  cases hread : readAuthority "ws" xs with
  | error fault => rfl
  | ok r =>
    obtain ⟨a, left⟩ := r
    obtain rfl := readAuthority_rest hxs hread
    rfl

end Switchboard.Address
