import Switchboard.Proofs.Message.Lenient

namespace Switchboard

def Json.Value.isScalar : Json.Value → Bool
  | .null | .boolean _ | .number _ => true
  | .string _ | .array _ | .object _ => false

namespace Message

open Json
open Text (AllBlank)

variable {text rest : List Char} {d : Nat} {v : Value}

/-- A number or a word, with or without spaces before it, and blanks behind it, the first of which does
not end it. -/
inductive LoneScalar : List Char → Prop
  | intro {scalar blanks : List Char} {stray : Char} {v : Value}
      (hread : (value maxDepth).run scalar = .ok (v, [])) (hscalar : v.isScalar)
      (hstray : ¬ isSpace stray) (hblank : AllBlank (stray :: blanks)) :
      LoneScalar (scalar ++ stray :: blanks)

/-- Where nothing is read line by line, nothing but blanks stands. -/
theorem readLines_eq_nil_iff : readLines text = [] ↔ AllBlank text := by
  refine ⟨fun h => ?_, readLines_allBlank⟩
  -- the induction is on the lines, cut off one by one
  induction hlen : text.length using Nat.strongRecOn generalizing text with
  | ind n ih =>
    obtain ⟨line, behind, rfl, hn, hbehind⟩ := cut_at_feed text
    rw [readLines_append hbehind, List.append_eq_nil_iff] at h
    obtain ⟨hline, hmore⟩ := h
    have hfirst : AllBlank line := readLines_eq_nil hn hline
    have hothers : AllBlank behind := by
      obtain rfl | ⟨more, rfl⟩ := hbehind
      · exact List.forall_mem_nil _
      · have hfeed : AllBlank ['\n'] := List.forall_mem_singleton.mpr (by decide)
        have hskip : readLines ('\n' :: more) = readLines more :=
          readLines_blank_append hfeed more
        have hlt : more.length < n := by
          rw [← hlen, List.length_append, List.length_cons]
          omega
        rw [hskip] at hmore
        exact List.forall_mem_append.mpr ⟨hfeed, ih more.length hlt hmore rfl⟩
    exact List.forall_mem_append.mpr ⟨hfirst, hothers⟩

/-- How a value begins tells whether it shows its own end. -/
theorem opensDelimited_of_valueWith {list object : List Char → Reading Value} {c : Char}
    {tail : List Char} (hl : list tail = .ok (v, rest) → v.isScalar = false)
    (ho : object tail = .ok (v, rest) → v.isScalar = false)
    (h : valueWith list object (c :: tail) = .ok (v, rest)) :
    opensDelimited (c :: tail) = !v.isScalar := by
  by_cases hc : c ∈ ['n', 't', 'f', '-', '"', '[', '{']
  · simp only [List.mem_cons, List.not_mem_nil, or_false] at hc
    rcases hc with rfl | rfl | rfl | rfl | rfl | rfl | rfl
    · obtain ⟨last, -, hlast⟩ := map_eq_ok h
      cases hlast
      rfl
    · obtain ⟨last, -, hlast⟩ := map_eq_ok h
      cases hlast
      rfl
    · obtain ⟨last, -, hlast⟩ := map_eq_ok h
      cases hlast
      rfl
    · obtain ⟨⟨n, last⟩, -, hlast⟩ := map_eq_ok h
      cases hlast
      rfl
    · obtain ⟨⟨cs, last⟩, -, hlast⟩ := map_eq_ok h
      cases hlast
      rfl
    · rw [hl h]
      rfl
    · rw [ho h]
      rfl
  · rw [valueWith_other hc] at h
    split at h
    · obtain ⟨⟨n, last⟩, -, hlast⟩ := map_eq_ok h
      cases hlast
      simp only [List.mem_cons, List.not_mem_nil, or_false, not_or] at hc
      unfold opensDelimited
      split <;> simp_all [Value.isScalar]
    · contradiction

/-- Numbers and words are the values that do not show their own end. -/
theorem opensDelimited_of_value {c : Char} {tail : List Char} (ht : skipSpace text = c :: tail)
    (h : (value d).run text = .ok (v, rest)) : opensDelimited (c :: tail) = !v.isScalar := by
  cases d with
  | zero =>
    simp only [value, Reader.spaced, ht] at h
    exact opensDelimited_of_valueWith (fun hl => by contradiction) (fun ho => by contradiction) h
  | succ d =>
    simp only [value, Reader.spaced, ht] at h
    refine opensDelimited_of_valueWith (fun hl => ?_) (fun ho => ?_) h
    · obtain ⟨⟨vs, last⟩, -, hlast⟩ := map_eq_ok hl
      cases hlast
      rfl
    · obtain ⟨⟨ms, last⟩, -, hlast⟩ := map_eq_ok ho
      cases hlast
      rfl

/-- Of the blanks, those end a scalar that may stand between lexemes. -/
theorem endsScalar_of_blank {c : Char} (hc : Text.isBlank c) (blanks : List Char) :
    endsScalar (c :: blanks) = isSpace c := by
  have hmark : c ∉ ['"', '[', ']', '{', '}', ',', ':'] := by
    intro hm
    simp only [List.mem_cons, List.not_mem_nil, or_false] at hm
    rcases hm with rfl | rfl | rfl | rfl | rfl | rfl | rfl <;> exact absurd hc (by decide)
  simp [endsScalar, hmark]

/-- No value begins with a blank. -/
theorem not_blank_of_value {c : Char} {tail : List Char} (ht : skipSpace text = c :: tail)
    (h : (value d).run text = .ok (v, rest)) : ¬ Text.isBlank c := by
  intro hc
  obtain ⟨f, hf⟩ := value_stuck hc ht d
  cases h.symm.trans hf

theorem not_newline_of_stray {c : Char} (hc : ¬ isSpace c) (blanks : List Char) :
    ¬ Newline (c :: blanks) := by
  rintro ⟨more, hmore⟩
  cases hmore
  exact hc rfl

theorem LoneScalar.readFrameChars (h : LoneScalar text) : readFrameChars text = [] := by
  obtain @⟨scalar, blanks, stray, v, hread, hscalar, hstray, hblank⟩ := h
  have hv := value_followed (ends_of_allBlank hblank) (not_newline_of_stray hstray blanks) hread
  obtain ⟨c, tail, ht⟩ := value_opens hv
  have hdelimited := opensDelimited_of_value ht hv
  have hends := endsScalar_of_blank (hblank stray List.mem_cons_self) blanks
  rw [← value_skipSpace, ht, List.nil_append] at hv
  rw [readFrameChars_cons ht hv, hdelimited, hends, hscalar, Bool.eq_false_iff.mpr hstray]
  exact readLines_allBlank hblank

/-- A value that is lost before blanks is a scalar, and the blanks begin with one that does not end
it. -/
theorem loneScalar_of_lost {c : Char} {tail : List Char} (ht : skipSpace text = c :: tail)
    (hv : (value maxDepth).run (c :: tail) = .ok (v, rest))
    (hlost : ¬ (opensDelimited (c :: tail) || endsScalar rest)) (hblank : AllBlank rest) :
    LoneScalar text := by
  rw [← ht, value_skipSpace] at hv
  rw [opensDelimited_of_value ht hv, Bool.or_eq_true, not_or] at hlost
  obtain ⟨hdelimited, hends⟩ := hlost
  obtain ⟨scalar, rfl⟩ := value_suffix hv
  obtain ⟨before, hbefore, hread⟩ :=
    value_kept (ends_of_allBlank hblank) maxDepth scalar v rest hv (Nat.le_refl _)
  cases List.self_eq_append_left.mp hbefore
  cases rest with
  | nil => exact absurd rfl hends
  | cons stray blanks =>
    rw [endsScalar_of_blank (hblank stray List.mem_cons_self)] at hends
    refine .intro hread ?_ hends hblank
    simpa using hdelimited

/-- Nothing is read off a frame exactly if it is blank or a scalar was lost before blanks. -/
theorem readFrameChars_eq_nil_iff :
    readFrameChars text = [] ↔ AllBlank text ∨ LoneScalar text := by
  constructor
  · intro h
    cases hs : skipSpace text with
    | nil => exact .inl (allBlank_of_skipSpace hs)
    | cons c tail =>
      cases hv : (value maxDepth).run (c :: tail) with
      | error f =>
        rw [readFrameChars_fault hs (List.cons_ne_nil _ _) hv, readLines_eq_nil_iff, ← hs] at h
        exact .inl (allBlank_of_skipped h)
      | ok p =>
        obtain ⟨v, rest⟩ := p
        rw [readFrameChars_cons hs hv] at h
        split at h
        · contradiction
        · next hlost => exact .inr (loneScalar_of_lost hs hv hlost (readLines_eq_nil_iff.mp h))
  · rintro (h | h)
    · exact readFrameChars_allBlank h
    · exact h.readFrameChars

/-- Whatever opens neither a list nor an object is no response. -/
theorem readChars_refused {c : Char} {tail : List Char} (ht : skipSpace text = c :: tail)
    (hc : ¬ Text.isBlank c) (hopen : ¬ (c = '[' ∨ c = '{')) :
    ∃ why, Response.readChars text = .error (.invalidEnvelope why) := by
  rw [← readChars_skipSpace, ht]
  have htrim : ∃ behind, Text.trim (c :: tail) = c :: behind := by
    rw [Text.trim, List.dropWhile_cons_of_neg hc, Text.trimEnd]
    split
    · exact ⟨[], if_neg hc⟩
    · exact ⟨_, rfl⟩
  obtain ⟨behind, htrim⟩ := htrim
  rw [Response.readChars, readEnvelope, htrim]
  cases hparse : envelope.parse (c :: behind) with
  | error f => exact ⟨_, rfl⟩
  | ok e =>
    obtain ⟨rest, hrun, -⟩ := whole_ok hparse
    obtain ⟨c', u, hs, hopen'⟩ := run_opens hrun
    have hself : skipSpace (c :: behind) = c :: behind :=
      List.dropWhile_cons_of_neg fun hspace => hc (isBlank_of_isSpace hspace)
    cases hself.symm.trans hs
    exact absurd hopen' hopen

/-- By itself a lost scalar is refused as no envelope. -/
theorem LoneScalar.refused (h : LoneScalar text) :
    ∃ why, Response.readChars text = .error (.invalidEnvelope why) := by
  obtain @⟨scalar, blanks, stray, v, hread, hscalar, -, hblank⟩ := h
  obtain ⟨c, tail, ht⟩ := value_opens hread
  have hdelimited := opensDelimited_of_value ht hread
  rw [hscalar] at hdelimited
  rw [readChars_append_blank hblank]
  apply readChars_refused ht (not_blank_of_value ht hread)
  rintro (rfl | rfl) <;> contradiction

theorem LoneScalar.not_allBlank (h : LoneScalar text) : ¬ AllBlank text := by
  obtain @⟨scalar, blanks, stray, v, hread, -, -, -⟩ := h
  obtain ⟨c, tail, ht⟩ := value_opens hread
  intro hall
  apply not_blank_of_value ht hread
  exact hall c (List.mem_append_left _ (mem_of_skipSpace ht))

end Message

end Switchboard
