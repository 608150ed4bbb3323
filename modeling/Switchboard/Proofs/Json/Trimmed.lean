import Switchboard.Proofs.Json.Spans

namespace Switchboard.Json

variable {s text rest last : List Char} {nests : List Nest}

theorem opened_suffix {c : Char} (h : skipSpace text = c :: rest) : c :: rest <:+ text :=
  h ▸ List.dropWhile_suffix isSpace

theorem behind_suffix {c : Char} (h : skipSpace text = c :: rest) : rest <:+ text :=
  (List.suffix_cons c rest).trans (opened_suffix h)

theorem colon_suffix (h : colon text = .ok rest) : rest <:+ text :=
  behind_suffix (colon_iff.mp h)

theorem nextItem_suffix {first : Bool} {turn : Turn} (h : nextItem first text = .ok turn) :
    turn.text <:+ text := by
  rcases nextItem_iff.mp h with ht | ⟨ht, -⟩ | ⟨ht, hu, -⟩
  · exact behind_suffix ht
  · exact opened_suffix ht
  · exact (opened_suffix hu).trans (behind_suffix ht)

theorem nextKey_suffix {first : Bool} {turn : Turn} (h : nextKey first text = .ok turn) :
    turn.text <:+ text := by
  rcases nextKey_iff.mp h with ht | ht | ⟨ht, hu⟩
  · exact behind_suffix ht
  · exact behind_suffix ht
  · exact (behind_suffix hu).trans (behind_suffix ht)

theorem word_suffix {ws : List Char} (h : word ws text = .ok rest) : rest <:+ text := by
  induction ws generalizing text with
  | nil =>
    cases h
    exact List.suffix_rfl
  | cons w ws ih =>
    cases text with
    | nil => contradiction
    | cons c text =>
      rw [word] at h
      split at h
      · exact (ih h).trans (List.suffix_cons c text)
      · contradiction

theorem hexFour_suffix {n : Nat} (h : hexFour text = .ok (n, rest)) : rest <:+ text := by
  unfold hexFour at h
  split at h
  · next a b c d tail =>
    split at h
    · cases h
      exact ⟨[a, b, c, d], rfl⟩
    · contradiction
  · contradiction

theorem skipEscaped_suffix (h : skipEscaped text = .ok rest) : rest <:+ text := by
  cases text with
  | nil => contradiction
  | cons c text =>
    apply List.IsSuffix.trans _ (List.suffix_cons c text)
    by_cases hc : c = 'u'
    · subst hc
      obtain ⟨⟨n, tail⟩, hx, hrest⟩ := map_eq_ok (f := fun p : Nat × List Char => p.2) h
      exact hrest ▸ hexFour_suffix hx
    · rw [skipEscaped_short hc] at h
      split at h
      · cases h
        exact List.suffix_rfl
      · contradiction

theorem skipString_suffix (h : skipString text = .ok rest) : rest <:+ text := by
  fun_induction skipString text with
  | case1 => contradiction
  | case2 tail =>
    cases h
    exact List.suffix_cons ..
  | case3 => contradiction
  | case4 tail tail' he ih =>
    exact ((ih h).trans (skipEscaped_suffix he)).trans (List.suffix_cons ..)
  | case5 => contradiction
  | case6 c tail _ _ _ ih => exact (ih h).trans (List.suffix_cons ..)

theorem exponentSign_suffix (text : List Char) : (exponentSign text).2 <:+ text := by
  unfold exponentSign
  split
  · exact List.suffix_cons ..
  · exact List.suffix_cons ..
  · exact List.suffix_rfl

theorem skipExponent_suffix (h : skipExponent text = .ok rest) : rest <:+ text := by
  have hsign := exponentSign_suffix text
  unfold skipExponent at h
  split at h
  · contradiction
  · next c tail hs =>
    rw [hs] at hsign
    split at h
    · cases h
      exact (List.dropWhile_suffix isDigit).trans ((List.suffix_cons c tail).trans hsign)
    · contradiction

theorem skipExponentOrEnd_suffix (h : skipExponentOrEnd text = .ok rest) : rest <:+ text := by
  unfold skipExponentOrEnd at h
  split at h
  · exact (skipExponent_suffix h).trans (List.suffix_cons ..)
  · exact (skipExponent_suffix h).trans (List.suffix_cons ..)
  · cases h
    exact List.suffix_rfl

theorem skipAfterInteger_suffix (h : skipAfterInteger text = .ok rest) : rest <:+ text := by
  unfold skipAfterInteger at h
  split at h
  · next tail =>
    split at h
    · exact ((skipExponentOrEnd_suffix h).trans (List.dropWhile_suffix isDigit)).trans
        (List.suffix_cons ..)
    · contradiction
  · exact skipExponentOrEnd_suffix h

theorem skipNumber_suffix (h : skipNumber text = .ok rest) : rest <:+ text := by
  unfold skipNumber at h
  split at h
  · contradiction
  · split at h
    · contradiction
    · exact (skipAfterInteger_suffix h).trans (List.suffix_cons ..)
  · split at h
    · exact ((skipAfterInteger_suffix h).trans (List.dropWhile_suffix isDigit)).trans
        (List.suffix_cons ..)
    · contradiction

theorem skipScalar_suffix (h : skipScalar text = .ok rest) : rest <:+ text := by
  unfold skipScalar at h
  split at h
  · contradiction
  · exact (word_suffix h).trans (List.suffix_cons ..)
  · exact (word_suffix h).trans (List.suffix_cons ..)
  · exact (word_suffix h).trans (List.suffix_cons ..)
  · exact (skipNumber_suffix h).trans (List.suffix_cons ..)
  · exact (skipString_suffix h).trans (List.suffix_cons ..)
  · split at h
    · exact skipNumber_suffix h
    · contradiction

theorem skipKey_suffix (h : skipKey text = .ok rest) : rest <:+ text := by
  unfold skipKey at h
  split at h
  · contradiction
  · next hstring => exact (colon_suffix h).trans (skipString_suffix hstring)

theorem skipToKey_suffix (h : skipToKey text = .ok rest) : rest <:+ text := by
  unfold skipToKey at h
  split at h
  · contradiction
  · next ht => exact (skipKey_suffix h).trans (behind_suffix ht)
  · contradiction

def Closes (text rest : List Char) : Prop :=
  ∃ close, (close = ']' ∨ close = '}') ∧ close :: rest <:+ text

theorem Closes.of_suffix (h : Closes last rest) (hs : last <:+ text) : Closes text rest := by
  obtain ⟨close, hclose, hsuffix⟩ := h
  exact ⟨close, hclose, hsuffix.trans hs⟩

/-- What is closed is the last that was open, or more is closed behind it. -/
theorem Closes.of_close {close : Char} (hclose : close = ']' ∨ close = '}')
    (hs : close :: last <:+ text) (h : skipNested nests .after last = .ok rest)
    (hmore : nests ≠ [] → Closes last rest) : Closes text rest := by
  by_cases hn : nests = []
  · subst hn
    rw [skipNested] at h
    cases h
    exact ⟨close, hclose, hs⟩
  · exact (hmore hn).of_suffix ((List.suffix_cons close last).trans hs)

/-- Inside a list or an object, or with one still to be read, passing over the rest ends where the
outermost of them is closed. -/
theorem skipNested_closes {stage : Stage} (h : skipNested nests stage text = .ok rest)
    (hopen : nests ≠ [] ∨
      stage = .value ∧ ∃ c u, skipSpace text = c :: u ∧ (c = '[' ∨ c = '{')) :
    Closes text rest := by
  -- As long as a nest is open the rest cannot be the end, so each step passes on to a later bracket;
  -- the bracket that closes the last nest is the one looked for.
  fun_induction skipNested nests stage text with
  | case1 => contradiction
  | case2 nests text tail ht last hn ih =>
    obtain hlast | _ | _ := nextItem_iff.mp hn
    exact .of_close (.inl rfl) ((opened_suffix hlast).trans (behind_suffix ht)) h
      fun hne => ih h (.inl hne)
  | case3 nests text tail ht item hn ih =>
    exact (ih h (.inl (List.cons_ne_nil _ _))).of_suffix
      ((nextItem_suffix hn).trans (behind_suffix ht))
  | case4 => contradiction
  | case5 nests text tail ht last hn ih =>
    obtain hlast | _ | _ := nextKey_iff.mp hn
    exact .of_close (.inr rfl) ((opened_suffix hlast).trans (behind_suffix ht)) h
      fun hne => ih h (.inl hne)
  | case6 => contradiction
  | case7 nests text tail ht entry hn item hk ih =>
    exact (ih h (.inl (List.cons_ne_nil _ _))).of_suffix
      ((skipKey_suffix hk).trans ((nextKey_suffix hn).trans (behind_suffix ht)))
  | case8 => contradiction
  | case9 nests text last hlist hobject hr ih =>
    obtain hne | ⟨-, c, u, ht, rfl | rfl⟩ := hopen
    · exact (ih h (.inl hne)).of_suffix
        ((skipScalar_suffix hr).trans (List.dropWhile_suffix isSpace))
    · exact absurd ht (hlist u)
    · exact absurd ht (hobject u)
  | case10 =>
    obtain hne | ⟨hstage, -⟩ := hopen
    · exact absurd rfl hne
    · contradiction
  | case11 => contradiction
  | case12 text outer tail ht ih =>
    exact (ih h (.inl (List.cons_ne_nil _ _))).of_suffix (behind_suffix ht)
  | case13 text outer tail ht ih =>
    exact .of_close (.inl rfl) (opened_suffix ht) h fun hne => ih h (.inl hne)
  | case14 => contradiction
  | case15 => contradiction
  | case16 => contradiction
  | case17 text outer tail ht item hk ih =>
    exact (ih h (.inl (List.cons_ne_nil _ _))).of_suffix
      ((skipToKey_suffix hk).trans (behind_suffix ht))
  | case18 text outer tail ht ih =>
    exact .of_close (.inr rfl) (opened_suffix ht) h fun hne => ih h (.inl hne)
  | case19 => contradiction

/-- A list or an object ends with the bracket or brace that closes it. -/
theorem value_closes {d : Nat} {v : Value} {c : Char} {u : List Char}
    (h : (value d).run text = .ok (v, rest)) (ht : skipSpace text = c :: u)
    (hopen : c = '[' ∨ c = '{') : Closes text rest := by
  have hskip := value_spans d [] text v rest h
  rw [skipNested.eq_def [] .after] at hskip
  exact skipNested_closes hskip (.inr ⟨rfl, c, u, ht, hopen⟩)

/-- What is left over behind a value is the end of the text. -/
theorem value_suffix {d : Nat} {v : Value} (h : (value d).run text = .ok (v, rest)) :
    rest <:+ text := by
  obtain ⟨c, u, ht⟩ := value_opens h
  by_cases hopen : c = '[' ∨ c = '{'
  · obtain ⟨close, -, hclose⟩ := value_closes h ht hopen
    exact (List.suffix_cons close rest).trans hclose
  · obtain ⟨hlist, hobject⟩ := not_or.mp hopen
    obtain ⟨list, object, hrun⟩ := value_run d text
    rw [hrun, ht] at h
    exact (skipScalar_suffix (skipScalar_of_valueWith hlist hobject h)).trans (opened_suffix ht)

/-- What a reading of a text with `s` behind it tells of the text alone: where all of `s` is left
over, the text is read the same. -/
def Kept (s : List Char) (x y : Reading α) : Prop :=
  ∀ a rest, y = .ok (a, rest) → s.length ≤ rest.length →
    ∃ before, rest = before ++ s ∧ x = .ok (a, before)

variable {x y : Reading α}

theorem Lengthened.kept (h : Lengthened s x y) : Kept s x y := by
  intro a rest hy hs
  cases h with
  | ok a' before =>
    cases hy
    exact ⟨before, rfl, rfl⟩
  | refused f y h => exact absurd (h a rest hy).2 (Nat.not_lt_of_le hs)

/-- Where some of what follows is always taken, nothing has to be kept. -/
theorem Kept.of_taken (h : ∀ a rest, y = .ok (a, rest) → rest.length < s.length) : Kept s x y :=
  fun a rest hy hs => absurd (h a rest hy) (Nat.not_lt_of_le hs)

theorem Kept.map (h : Kept s x y) (g : α → β) :
    Kept s (x.map fun (a, rest) => (g a, rest)) (y.map fun (a, rest) => (g a, rest)) := by
  intro b rest hy hs
  obtain ⟨⟨a, last⟩, ha, hlast⟩ := map_eq_ok hy
  cases hlast
  obtain ⟨before, hrest, hx⟩ := h a rest ha hs
  exact ⟨before, hrest, by rw [hx]; rfl⟩

theorem Kept.afterColon {r : Reader α} (h : ∀ text, Kept s (r.run text) (r.run (text ++ s)))
    (text : List Char) : Kept s (r.afterColon.run text) (r.afterColon.run (text ++ s)) := by
  intro a rest hy hs
  simp only [Reader.afterColon] at hy ⊢
  split at hy
  · contradiction
  next u hu =>
  obtain ⟨before, hbefore, rfl⟩ | ⟨-, htaken⟩ := colon_split hu
  · rw [hbefore]
    exact h before a rest hy hs
  · have hlt := r.consumes hy
    omega

/-- The items of a list are read off the text alone if all that follows is left over. -/
theorem items_kept {item : Reader α} (h : ∀ text, Kept s (item.run text) (item.run (text ++ s)))
    (first : Bool) (text : List Char) :
    Kept s (items item first text) (items item first (text ++ s)) := by
  intro as rest hy hs
  rw [items_iff] at hy
  generalize hu : text ++ s = u at hy
  induction hy generalizing text with
  | done ht =>
    subst hu
    obtain ⟨before, hbefore, hturn⟩ | hturn | ⟨-, htaken⟩ := nextItem_split ht
    · cases before with
      | entry => cases hturn
      | done last =>
        cases hturn
        exact ⟨last, rfl, items_done hbefore⟩
    · cases hturn
    · exact absurd htaken (Nat.not_lt_of_le hs)
  | entry ht ha has ih =>
    subst hu
    have hle := items_length (items_iff.mpr has)
    have hlt := item.consumes ha
    obtain ⟨before, hbefore, hturn⟩ | hturn | ⟨-, htaken⟩ := nextItem_split ht
    · cases before with
      | done => cases hturn
      | entry entry =>
        cases hturn
        obtain ⟨mid, hmid, hfirst⟩ := h entry _ _ ha (Nat.le_trans hs hle)
        obtain ⟨last, hlast, hothers⟩ := ih mid hs hmid.symm
        refine ⟨last, hlast, ?_⟩
        rw [items_entry hbefore, hfirst]
        simp only [hothers]
        rfl
    · cases hturn
      have hskip := skipSpace_length s
      omega
    · simp only [Turn.text] at htaken
      omega

theorem membersInto_kept {member : σ → String → Reader σ}
    (h : ∀ acc k text, Kept s ((member acc k).run text) ((member acc k).run (text ++ s)))
    (acc : σ) (first : Bool) (text : List Char) :
    Kept s (membersInto member acc first text) (membersInto member acc first (text ++ s)) := by
  intro acc' rest hy hs
  rw [membersInto_iff] at hy
  generalize hu : text ++ s = u at hy
  induction hy generalizing text with
  | done ht =>
    subst hu
    obtain ⟨before, hbefore, hturn⟩ | ⟨-, htaken⟩ := nextKey_split ht
    · cases before with
      | entry => cases hturn
      | done last =>
        cases hturn
        exact ⟨last, rfl, membersInto_done hbefore⟩
    · exact absurd htaken (Nat.not_lt_of_le hs)
  | @entry first u entry value tail rest k acc acc₁ acc' ht hk hm hms ih =>
    subst hu
    have hle := membersInto_length (membersInto_iff.mpr hms)
    have hlt := (member acc k).consumes hm
    have hkey := key_length hk
    obtain ⟨before, hbefore, hturn⟩ | ⟨-, htaken⟩ := nextKey_split ht
    · cases before with
      | done => cases hturn
      | entry entry =>
        cases hturn
        obtain ⟨item, hitem, hname⟩ := (key_lengthened entry).kept k value hk (by omega)
        subst hitem
        obtain ⟨mid, hmid, hfirst⟩ := h acc k item acc₁ tail hm (Nat.le_trans hs hle)
        obtain ⟨last, hlast, hothers⟩ := ih mid hs hmid.symm
        refine ⟨last, hlast, ?_⟩
        rw [membersInto_entry hbefore hname, hfirst]
        exact hothers
    · simp only [Turn.text] at htaken
      omega

/-- Behind blanks alone a value is read off what follows and takes some of that. -/
theorem value_kept_blank (ht : skipSpace text = []) (d : Nat) :
    Kept s ((value d).run text) ((value d).run (text ++ s)) := by
  apply Kept.of_taken
  intro v rest hy
  rw [← value_skipSpace, skipSpace_append_nil ht, value_skipSpace] at hy
  exact (value d).consumes hy

/-- A value is read off the text alone if all that stands behind the text is left over. -/
theorem value_kept (hs : continuesNumber s = false) (d : Nat) (text : List Char) :
    Kept s ((value d).run text) ((value d).run (text ++ s)) := by
  induction d generalizing text with
  | zero =>
    cases ht : skipSpace text with
    | nil => exact value_kept_blank ht 0
    | cons c u =>
      simp only [value, Reader.spaced, ht, skipSpace_append_cons ht]
      exact valueWith_lengthened (·.kept) hs (fun _ => (Lengthened.error ..).kept)
        (fun _ => (Lengthened.error ..).kept) c u
  | succ d ih =>
    cases ht : skipSpace text with
    | nil => exact value_kept_blank ht (d + 1)
    | cons c u =>
      simp only [value, Reader.spaced, ht, skipSpace_append_cons ht]
      refine valueWith_lengthened (·.kept) hs (fun text => ?_) (fun text => ?_) c u
      · exact (items_kept ih true text).map Value.array
      · refine (membersInto_kept (fun ms k text => ?_) [] true text).map Value.object
        refine .afterColon (fun text => ?_) text
        rw [Reader.map_run, Reader.map_run]
        exact (ih text).map fun v => insertMember k v ms

end Switchboard.Json
