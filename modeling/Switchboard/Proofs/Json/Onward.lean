import Switchboard.Proofs.Json.Reading

/-!
Lexemes with more text behind them. What is read off the front of a text is read off a longer text
too, unless that goes on with a number that ended with the text; and what is refused is refused
still if a line feed follows, or takes some of what follows.
-/

namespace Switchboard.Json

def Newline (s : List Char) : Prop := ∃ p, s = '\n' :: p

/-- What becomes of a reading when `s` follows its text: a success is the same and leaves `s` over,
and a failure stays one if `s` begins a new line. -/
inductive Onward (s : List Char) : Reading α → Reading α → Prop
  | ok (a : α) (rest : List Char) : Onward s (.ok (a, rest)) (.ok (a, rest ++ s))
  | error (f g : Fault) : Onward s (.error f) (.error g)
  | broken (f : Fault) (y : Reading α) (h : ¬ Newline s) : Onward s (.error f) y

/-- What becomes of a reading when its text is lengthened by `s`: a success is the same and leaves
`s` over, and where a failure is mended, `s` begins no new line and some of it is taken. -/
inductive Lengthened (s : List Char) : Reading α → Reading α → Prop
  | ok (a : α) (rest : List Char) : Lengthened s (.ok (a, rest)) (.ok (a, rest ++ s))
  | refused (f : Fault) (y : Reading α)
      (h : ∀ a rest, y = .ok (a, rest) → ¬ Newline s ∧ rest.length < s.length) :
      Lengthened s (.error f) y

inductive OnwardRest (s : List Char) :
    Except Fault (List Char) → Except Fault (List Char) → Prop
  | ok (rest : List Char) : OnwardRest s (.ok rest) (.ok (rest ++ s))
  | error (f g : Fault) : OnwardRest s (.error f) (.error g)
  | broken (f : Fault) (y : Except Fault (List Char)) (h : ¬ Newline s) : OnwardRest s (.error f) y

variable {s text rest : List Char} {x y : Reading α}

theorem not_newline_of_not_mem (h : '\n' ∉ s) : ¬ Newline s := by
  rintro ⟨p, rfl⟩
  exact h List.mem_cons_self

theorem Onward.of_ok {a : α} (h : Onward s (.ok (a, rest)) y) : y = .ok (a, rest ++ s) := by
  cases h
  rfl

theorem Onward.of_error {f : Fault} (h : Onward s (.error f) y) (hs : Newline s) :
    ∃ g, y = .error g := by
  cases h with
  | error f g => exact ⟨g, rfl⟩
  | broken f y hn => exact absurd hs hn

theorem Onward.of_newline {f : Fault} (h : ∀ p, s = '\n' :: p → ∃ g, y = .error g) :
    Onward s (.error f) y := by
  by_cases hs : Newline s
  · obtain ⟨p, hp⟩ := hs
    obtain ⟨g, rfl⟩ := h p hp
    exact .error f g
  · exact .broken f y hs

/-- A failure that hangs on another one. -/
theorem Onward.of_failure {f f' : Fault} {y' : Reading β} (h : Onward s (.error f) y)
    (hy : ∀ g, y = .error g → ∃ g', y' = .error g') : Onward s (.error f') y' := by
  cases h with
  | error f g =>
    obtain ⟨g', rfl⟩ := hy g rfl
    exact .error ..
  | broken f y hs => exact .broken _ _ hs

theorem Onward.map (h : Onward s x y) (g : α → β) :
    Onward s (x.map fun (a, rest) => (g a, rest)) (y.map fun (a, rest) => (g a, rest)) := by
  cases h with
  | ok a rest => exact .ok (g a) rest
  | error => exact .error ..
  | broken f y hs => exact .broken _ _ hs

namespace Lengthened

theorem error (f g : Fault) : Lengthened s (.error f : Reading α) (.error g) := .refused f _ nofun

/-- A reading that is lengthened goes onward: behind a line feed nothing of a failure is mended. -/
theorem onward (h : Lengthened s x y) : Onward s x y := by
  cases h with
  | ok a rest => exact .ok a rest
  | refused f y h =>
    cases y with
    | error g => exact .error f g
    | ok p => exact .broken f _ (h p.1 p.2 rfl).1

theorem of_ok {a : α} (h : Lengthened s (.ok (a, rest)) y) : y = .ok (a, rest ++ s) :=
  h.onward.of_ok

/-- A failure that a line feed does not mend, and that is mended only by taking some of what
follows. -/
theorem of_cut {f : Fault} (hn : ∀ p, s = '\n' :: p → ∃ g, y = .error g)
    (hs : ∀ a rest, y = .ok (a, rest) → rest.length < s.length) :
    Lengthened s (.error f) y := by
  refine .refused f y fun a rest hy => ⟨?_, hs a rest hy⟩
  rintro ⟨p, hp⟩
  obtain ⟨g, hg⟩ := hn p hp
  cases hy.symm.trans hg

theorem of_errors (hx : ∃ f, x = .error f) (hy : ∃ g, y = .error g) : Lengthened s x y := by
  obtain ⟨f, rfl⟩ := hx
  obtain ⟨g, rfl⟩ := hy
  exact .error f g

theorem map (h : Lengthened s x y) (g : α → β) :
    Lengthened s (x.map fun (a, rest) => (g a, rest)) (y.map fun (a, rest) => (g a, rest)) := by
  cases h with
  | ok a rest => exact .ok (g a) rest
  | refused f y h =>
    refine .refused f _ fun b rest hy => ?_
    obtain ⟨⟨a, last⟩, ha, hlast⟩ := map_eq_ok hy
    cases hlast
    exact h a rest ha

/-- A failure that hangs on another one. -/
theorem of_failure {f f' : Fault} {y' : Reading β} (h : Lengthened s (.error f) y)
    (hy : ∀ b rest, y' = .ok (b, rest) → ∃ a mid, y = .ok (a, mid) ∧ rest.length ≤ mid.length) :
    Lengthened s (.error f') y' := by
  cases h with
  | refused f y h =>
    refine .refused f' y' fun b rest hb => ?_
    obtain ⟨a, mid, ha, hle⟩ := hy b rest hb
    obtain ⟨hn, hlt⟩ := h a mid ha
    exact ⟨hn, Nat.lt_of_le_of_lt hle hlt⟩

end Lengthened

theorem OnwardRest.of_ok {y : Except Fault (List Char)} (h : OnwardRest s (.ok rest) y) :
    y = .ok (rest ++ s) := by
  cases h
  rfl

theorem Lengthened.onwardRest {x y : Except Fault (List Char)}
    (h : Lengthened s (x.map ((), ·)) (y.map ((), ·))) : OnwardRest s x y := by
  cases x with
  | error f =>
    cases y with
    | error g => exact .error f g
    | ok rest =>
      obtain _ | ⟨-, -, hcut⟩ := h
      exact .broken f _ (hcut () rest rfl).1
  | ok rest =>
    cases y with
    | error g => cases h.of_ok
    | ok behind =>
      cases h.of_ok
      exact .ok rest

/-! ### Words and strings -/

theorem word_cons_length {w : Char} {ws : List Char} (h : word (w :: ws) text = .ok rest) :
    rest.length < text.length := by
  cases text with
  | nil => contradiction
  | cons c text =>
    rw [word] at h
    split at h
    · exact Nat.lt_succ_of_le (word_length h)
    · contradiction

/-- A word that is cut off is mended by its own letters only. -/
theorem word_lengthened (a : α) (ws : List Char) (hws : '\n' ∉ ws) (text : List Char) :
    Lengthened s ((word ws text).map (a, ·)) ((word ws (text ++ s)).map (a, ·)) := by
  induction ws generalizing text with
  | nil => exact .ok a text
  | cons w ws ih =>
    rw [List.mem_cons, not_or] at hws
    cases text with
    | nil =>
      refine .of_cut (fun p hp => ?_) fun b rest h => ?_
      · subst hp
        rw [List.nil_append, word, if_neg hws.1]
        exact ⟨_, rfl⟩
      · obtain ⟨last, hw, hlast⟩ := map_eq_ok h
        cases hlast
        exact word_cons_length hw
    | cons c text =>
      rw [List.cons_append, word, word]
      split
      · exact ih hws.2 text
      · exact .error ..

theorem word_onward (ws : List Char) (hws : '\n' ∉ ws) (text : List Char) :
    OnwardRest s (word ws text) (word ws (text ++ s)) :=
  (word_lengthened () ws hws text).onwardRest

theorem hexFour_newline (h : '\n' ∈ text.take 4) : ∃ f, hexFour text = .error f := by
  unfold hexFour
  split
  · split
    · rename_i a b c d rest i j k l ha hb hc hd
      have hnone : hexValue '\n' = none := by decide
      simp only [List.take_succ_cons, List.take_zero, List.mem_cons, List.not_mem_nil,
        or_false] at h
      rcases h with rfl | rfl | rfl | rfl <;> simp_all
    · exact ⟨_, rfl⟩
  · exact ⟨_, rfl⟩

theorem hexFour_taken {n : Nat} (h : hexFour text = .ok (n, rest)) :
    text.length = rest.length + 4 := by
  unfold hexFour at h
  split at h
  · split at h
    · cases h
      rfl
    · contradiction
  · contradiction

/-- Four digits that are cut off take some of what follows, and a line feed is none of them. -/
theorem hexFour_lengthened (text : List Char) :
    Lengthened s (hexFour text) (hexFour (text ++ s)) := by
  match text with
  | a :: b :: c :: d :: rest =>
    simp only [List.cons_append, hexFour]
    split
    · exact .ok _ rest
    · exact .error ..
  | [] | [_] | [_, _] | [_, _, _] =>
    refine .of_cut (fun p hp => ?_) fun n rest h => ?_
    · subst hp
      exact hexFour_newline (by simp)
    · have htaken := hexFour_taken h
      simp only [List.length_append, List.length_cons, List.length_nil] at htaken
      omega

theorem trailing_plain {c : Char} (hc : c ≠ '\\') (n : Nat) (text : List Char) :
    ∃ f, trailing n (c :: text) = .error f := by
  unfold trailing
  split <;> simp_all

theorem trailing_escape {c : Char} (hc : c ≠ 'u') (n : Nat) (text : List Char) :
    ∃ f, trailing n ('\\' :: c :: text) = .error f := by
  unfold trailing
  split <;> simp_all

theorem trailing_ok {n : Nat} {c : Char} (h : trailing n text = .ok (c, rest)) :
    ∃ tail m, text = '\\' :: 'u' :: tail ∧ hexFour tail = .ok (m, rest) := by
  unfold trailing at h
  split at h <;> try contradiction
  split at h
  · contradiction
  · next tail _ m rest' hx =>
    split at h
    · simp only [Except.ok.injEq, Prod.mk.injEq] at h
      exact ⟨tail, m, rfl, h.2 ▸ hx⟩
    · contradiction

/-- A pair of surrogates may be cut off before its second half or within. -/
theorem trailing_lengthened (n : Nat) (text : List Char) :
    Lengthened s (trailing n text) (trailing n (text ++ s)) := by
  cases text with
  | nil =>
    exact .of_cut (fun p hp => hp ▸ trailing_plain (by decide) n p) fun _ _ => trailing_length
  | cons c text =>
    by_cases hc : c = '\\'
    · subst hc
      cases text with
      | nil =>
        refine .of_cut (fun p hp => hp ▸ trailing_escape (by decide) n p) fun d rest h => ?_
        obtain ⟨tail, m, ht, hx⟩ := trailing_ok h
        cases ht
        exact Nat.lt_succ_of_lt (hexFour_length hx)
      | cons d text =>
        by_cases hd : d = 'u'
        · subst hd
          have h := hexFour_lengthened (s := s) text
          cases hx : hexFour text with
          | ok p =>
            obtain ⟨m, rest⟩ := p
            rw [hx] at h
            simp only [List.cons_append, trailing, hx, h.of_ok]
            split
            · exact .ok ..
            · exact .error ..
          | error f =>
            have hfault : trailing n ('\\' :: 'u' :: text) = .error f := by simp only [trailing, hx]
            rw [hx] at h
            rw [hfault]
            refine h.of_failure fun c rest hc => ?_
            obtain ⟨tail, m, ht, hy⟩ := trailing_ok hc
            cases ht
            exact ⟨m, rest, hy, Nat.le_refl _⟩
        · exact .of_errors (trailing_escape hd n text) (trailing_escape hd n (text ++ s))
    · exact .of_errors (trailing_plain hc n text) (trailing_plain hc n (text ++ s))

theorem codeUnit_ok {c : Char} (h : codeUnit text = .ok (c, rest)) :
    ∃ n mid, hexFour text = .ok (n, mid) ∧ rest.length ≤ mid.length := by
  unfold codeUnit at h
  split at h
  · contradiction
  next n mid hx =>
  refine ⟨n, mid, hx, ?_⟩
  split at h
  · contradiction
  · split at h
    · exact Nat.le_of_lt (trailing_length h)
    · cases h
      exact Nat.le_refl _

/-- A code unit is read the same, and with it the second half it asks for. -/
theorem codeUnit_lengthened (text : List Char) :
    Lengthened s (codeUnit text) (codeUnit (text ++ s)) := by
  have h := hexFour_lengthened (s := s) text
  cases hx : hexFour text with
  | ok p =>
    obtain ⟨n, rest⟩ := p
    rw [hx] at h
    simp only [codeUnit, hx, h.of_ok]
    split
    · exact .error ..
    · split
      · exact trailing_lengthened n rest
      · exact .ok ..
  | error f =>
    rw [hx] at h
    simp only [codeUnit, hx]
    exact h.of_failure fun c rest => codeUnit_ok

theorem escaped_short {c : Char} (hc : c ≠ 'u') (text : List Char) :
    escaped (c :: text) =
      match shortEscape c with
      | some d => .ok (d, text)
      | none => .error (.next .invalidEscape (c :: text)) := by
  cases hs : shortEscape c <;> simp only [escaped, hs]

/-- An escape takes what follows if it is cut off, and no line feed. -/
theorem escaped_lengthened (text : List Char) :
    Lengthened s (escaped text) (escaped (text ++ s)) := by
  cases text with
  | nil =>
    refine .of_cut (fun p hp => ?_) fun _ _ => escaped_length
    subst hp
    exact ⟨_, rfl⟩
  | cons c text =>
    by_cases hc : c = 'u'
    · subst hc
      exact codeUnit_lengthened text
    · rw [List.cons_append, escaped_short hc, escaped_short hc]
      cases shortEscape c with
      | some d => exact .ok ..
      | none => exact .error ..

theorem stringBody_broken {f : Fault} (h : escaped text = .error f) :
    stringBody ('\\' :: text) = .error f := by
  rw [stringBody]
  split <;> simp_all

/-- A string holds no control characters, and so no line feed. -/
theorem stringBody_control {c : Char} (hc : c.toNat < 0x20) (text : List Char) :
    ∃ f, stringBody (c :: text) = .error f := by
  rw [stringBody, if_pos hc]
  · exact ⟨_, rfl⟩
  · rintro rfl
    exact absurd hc (by decide)
  · rintro rfl
    exact absurd hc (by decide)

theorem stringBody_quote (text : List Char) : stringBody ('"' :: text) = .ok ([], text) := by
  rw [stringBody]

theorem stringBody_escape_ok {cs : List Char} (h : stringBody ('\\' :: text) = .ok (cs, rest)) :
    ∃ c mid, escaped text = .ok (c, mid) ∧ rest.length ≤ mid.length := by
  cases he : escaped text with
  | error f =>
    rw [stringBody_broken he] at h
    contradiction
  | ok p =>
    obtain ⟨c, mid⟩ := p
    rw [stringBody_escape he] at h
    obtain ⟨⟨ds, last⟩, hbody, hlast⟩ := map_eq_ok h
    cases hlast
    exact ⟨c, mid, rfl, Nat.le_of_lt (stringBody_length hbody)⟩

/-- A string that is cut off goes on up to a quote in what follows, and not over a line feed. -/
theorem stringBody_lengthened (text : List Char) :
    Lengthened s (stringBody text) (stringBody (text ++ s)) := by
  -- An escape takes up to eleven further characters at once, so the induction is on the length.
  induction hn : text.length using Nat.strongRecOn generalizing text with
  | ind n ih =>
    cases text with
    | nil =>
      rw [stringBody]
      exact .of_cut (fun p hp => hp ▸ stringBody_control (by decide) p)
        fun _ _ => stringBody_length
    | cons c text =>
      by_cases hq : c = '"'
      · subst hq
        rw [List.cons_append, stringBody_quote, stringBody_quote]
        exact .ok ..
      by_cases hb : c = '\\'
      · subst hb
        have h := escaped_lengthened (s := s) text
        cases he : escaped text with
        | error f =>
          rw [stringBody_broken he]
          rw [he] at h
          exact h.of_failure fun cs rest => stringBody_escape_ok
        | ok p =>
          obtain ⟨d, rest⟩ := p
          rw [he] at h
          rw [List.cons_append, stringBody_escape he, stringBody_escape h.of_ok]
          have hlt := escaped_length he
          have hrest : rest.length < n := by
            simp only [List.length_cons] at hn
            omega
          exact (ih rest.length hrest rest rfl).map (d :: ·)
      by_cases hc : c.toNat < 0x20
      · exact .of_errors (stringBody_control hc text) (stringBody_control hc (text ++ s))
      · rw [List.cons_append, stringBody_plain (Nat.le_of_not_lt hc) hq hb,
          stringBody_plain (Nat.le_of_not_lt hc) hq hb]
        exact (ih text.length (by simp only [List.length_cons] at hn; omega) text rfl).map (c :: ·)

theorem key_eq (text : List Char) :
    key text = (stringBody text).map fun (cs, rest) => (String.ofList cs, rest) := by
  unfold key
  cases stringBody text <;> rfl

theorem key_lengthened (text : List Char) : Lengthened s (key text) (key (text ++ s)) := by
  rw [key_eq, key_eq]
  exact (stringBody_lengthened text).map String.ofList

/-! ### Numbers -/

theorem absorb_ends (h : startsWithDigit rest = false) (m : Nat) : absorb m rest = (m, rest) := by
  cases rest with
  | nil => rfl
  | cons c rest =>
    have hc : isDigit c = false := h
    simp [absorb, hc]

theorem exponentDigits_ends (h : startsWithDigit rest = false) (n : Nat) :
    exponentDigits n rest = (some n, rest) := by
  cases rest with
  | nil => rfl
  | cons c rest =>
    have hc : isDigit c = false := h
    simp [exponentDigits, hc]

section Ends

variable (hs : continuesNumber s = false)
include hs

theorem startsWithDigit_append (text : List Char) :
    startsWithDigit (text ++ s) = startsWithDigit text := by
  cases text with
  | nil => exact startsWithDigit_of_ends hs
  | cons c text => rfl

/-- Digits end with the text if what follows does not go on with them. -/
theorem absorb_append (m : Nat) (text : List Char) :
    absorb m (text ++ s) = ((absorb m text).1, (absorb m text).2 ++ s) := by
  induction text generalizing m with
  | nil => exact absorb_ends (startsWithDigit_of_ends hs) m
  | cons c text ih =>
    simp only [List.cons_append, absorb]
    split
    · exact ih _
    · rfl

theorem dropDigits_append_ends (text : List Char) :
    dropDigits (text ++ s) = dropDigits text ++ s := by
  induction text with
  | nil => exact dropDigits_of_ends (startsWithDigit_of_ends hs)
  | cons c text ih =>
    unfold dropDigits at ih ⊢
    rw [List.cons_append, List.dropWhile_cons, List.dropWhile_cons]
    split
    · exact ih
    · rfl

theorem exponentDigits_append (n : Nat) (text : List Char) :
    exponentDigits n (text ++ s) = ((exponentDigits n text).1, (exponentDigits n text).2 ++ s) := by
  induction text generalizing n with
  | nil => exact exponentDigits_ends (startsWithDigit_of_ends hs) n
  | cons c text ih =>
    simp only [List.cons_append, exponentDigits]
    split
    · split
      · exact ih _
      · rfl
    · rfl

omit hs in
theorem floatOf_lengthened (negative : Bool) (m : Nat) (e : Int) (rest : List Char) :
    Lengthened s (floatOf negative m e rest) (floatOf negative m e (rest ++ s)) := by
  unfold floatOf
  split
  · exact .error ..
  · exact .ok ..

omit hs in
theorem exponentSign_append (c : Char) (text : List Char) :
    exponentSign (c :: text ++ s) =
      ((exponentSign (c :: text)).1, (exponentSign (c :: text)).2 ++ s) := by
  by_cases hp : c = '+'
  · subst hp
    rfl
  by_cases hm : c = '-'
  · subst hm
    rfl
  have hplain : ∀ text, exponentSign (c :: text) = (false, c :: text) := by
    intro text
    unfold exponentSign
    split <;> simp_all
  rw [List.cons_append, hplain, hplain]
  rfl

/-- An exponent without digits may find some in what follows. -/
theorem exponent_lengthened (negative : Bool) (m : Nat) (e : Int) (text : List Char) :
    Lengthened s (exponent negative m e text) (exponent negative m e (text ++ s)) := by
  cases text with
  | nil => exact .of_cut (fun p hp => hp ▸ ⟨_, rfl⟩) fun _ _ => exponent_length
  | cons c text =>
    unfold exponent
    rw [exponentSign_append]
    generalize exponentSign (c :: text) = signed
    obtain ⟨down, rest⟩ := signed
    cases rest with
    | nil =>
      refine .of_errors ⟨_, rfl⟩ ?_
      cases s with
      | nil => exact ⟨_, rfl⟩
      | cons d p =>
        have hd : isDigit d = false := startsWithDigit_of_ends hs
        exact ⟨_, by simp only [List.nil_append, hd]; rfl⟩
    | cons d rest =>
      simp only [List.cons_append, exponentDigits_append hs]
      split
      · generalize exponentDigits (digitValue d) rest = digits
        obtain ⟨n | n, rest⟩ := digits
        · dsimp only
          split
          · exact .error ..
          · rw [dropDigits_append_ends hs]
            exact .ok ..
        · exact floatOf_lengthened ..
      · exact .error ..

omit hs in
theorem exponentOrEnd_plain (he : ∀ t, text ≠ 'e' :: t) (hE : ∀ t, text ≠ 'E' :: t)
    (negative : Bool) (m : Nat) (e : Int) :
    exponentOrEnd negative m e text = floatOf negative m e text := by
  unfold exponentOrEnd
  split
  · exact absurd rfl (he _)
  · exact absurd rfl (hE _)
  · rfl

theorem exponentOrEnd_lengthened (negative : Bool) (m : Nat) (e : Int) (text : List Char) :
    Lengthened s (exponentOrEnd negative m e text) (exponentOrEnd negative m e (text ++ s)) := by
  cases text with
  | nil =>
    have he : ∀ t, s ≠ 'e' :: t := fun t h => by cases h ▸ hs
    have hE : ∀ t, s ≠ 'E' :: t := fun t h => by cases h ▸ hs
    rw [List.nil_append, exponentOrEnd_plain (by simp) (by simp), exponentOrEnd_plain he hE]
    exact floatOf_lengthened _ _ _ []
  | cons c text =>
    by_cases he : c = 'e'
    · subst he
      exact exponent_lengthened hs negative m e text
    by_cases hE : c = 'E'
    · subst hE
      exact exponent_lengthened hs negative m e text
    have hplain : ∀ text, exponentOrEnd negative m e (c :: text) =
        floatOf negative m e (c :: text) := fun text =>
      exponentOrEnd_plain (fun t h => he (List.cons.inj h).1) (fun t h => hE (List.cons.inj h).1) ..
    rw [List.cons_append, hplain, hplain]
    exact floatOf_lengthened negative m e (c :: text)

/-- A fraction without digits may find some in what follows. -/
theorem fraction_lengthened (negative : Bool) (m : Nat) (e : Int) (text : List Char) :
    Lengthened s (fraction negative m e text) (fraction negative m e (text ++ s)) := by
  cases text with
  | nil =>
    refine .of_errors ⟨_, rfl⟩ ?_
    cases s with
    | nil => exact ⟨_, rfl⟩
    | cons d p =>
      have hd : isDigit d = false := startsWithDigit_of_ends hs
      exact ⟨_, by simp only [List.nil_append, fraction, hd]; rfl⟩
  | cons c text =>
    have ha := absorb_append hs m (c :: text)
    rw [List.cons_append] at ha ⊢
    simp only [fraction]
    split
    · rw [ha]
      dsimp only
      rw [dropDigits_append_ends hs]
      have hlen : (c :: (text ++ s)).length - ((absorb m (c :: text)).2 ++ s).length =
        (c :: text).length - (absorb m (c :: text)).2.length := by
        simp only [List.length_cons, List.length_append]
        omega
      rw [hlen]
      exact exponentOrEnd_lengthened hs negative _ _ _
    · exact .error ..

theorem longNumber_lengthened (negative : Bool) (m : Nat) (text : List Char) :
    Lengthened s (longNumber negative m text) (longNumber negative m (text ++ s)) := by
  have hlen : (text ++ s).length - (dropDigits text ++ s).length =
      text.length - (dropDigits text).length := by
    simp only [List.length_append]
    omega
  simp only [longNumber, dropDigits_append_ends hs, hlen]
  generalize ((text.length - (dropDigits text).length : Nat) : Int) = e
  cases dropDigits text with
  | nil =>
    dsimp only [List.nil_append]
    split
    · cases hs
    · exact exponentOrEnd_lengthened hs negative m e []
  | cons c rest =>
    by_cases hc : c = '.'
    · subst hc
      exact fraction_lengthened hs negative m e rest
    · rw [List.cons_append]
      split
      · rename_i h
        exact absurd (List.cons.inj h).1 hc
      · split
        · rename_i h
          exact absurd (List.cons.inj h).1 hc
        · exact exponentOrEnd_lengthened hs negative m e (c :: rest)

theorem afterInteger_lengthened (negative : Bool) (m : Nat) (text : List Char) :
    Lengthened s (afterInteger negative m text) (afterInteger negative m (text ++ s)) := by
  cases text with
  | nil =>
    rw [List.nil_append, afterInteger_ends hs, afterInteger_ends rfl]
    exact .ok _ []
  | cons c rest =>
    by_cases hpoint : c = '.'
    · subst hpoint
      exact fraction_lengthened hs negative m 0 rest
    by_cases he : c = 'e'
    · subst he
      exact exponent_lengthened hs negative m 0 rest
    by_cases hE : c = 'E'
    · subst hE
      exact exponent_lengthened hs negative m 0 rest
    have hplain : ∀ text, afterInteger negative m (c :: text) =
        .ok (wholeNumber negative m, c :: text) := by
      intro text
      unfold afterInteger
      split <;> simp_all
    rw [List.cons_append, hplain, hplain]
    exact .ok _ (c :: rest)

/-- A number is read the same, and a sign without digits may find some in what follows. -/
theorem number_lengthened (negative : Bool) (text : List Char) :
    Lengthened s (number negative text) (number negative (text ++ s)) := by
  cases text with
  | nil => exact .of_cut (fun p hp => hp ▸ ⟨_, rfl⟩) fun _ _ => number_length
  | cons c rest =>
    by_cases hc : c = '0'
    · subst hc
      simp only [List.cons_append, number, startsWithDigit_append hs]
      split
      · exact .error ..
      · exact afterInteger_lengthened hs negative 0 rest
    rw [List.cons_append, number, number]
    · split
      · rw [absorb_append hs]
        dsimp only
        rw [startsWithDigit_append hs]
        split
        · exact longNumber_lengthened hs negative _ _
        · exact afterInteger_lengthened hs negative _ _
      · exact .error ..
    · exact hc
    · exact hc

end Ends

end Switchboard.Json
