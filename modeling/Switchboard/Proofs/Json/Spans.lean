import Switchboard.Proofs.Json.Passing
import Switchboard.Proofs.Json.Resumed

/-!
How far a reader goes. Whatever a reader makes of the front of a text, it stops right where passing
over a value would. So two readers that both succeed on a text leave the same rest.
-/

namespace Switchboard.Json

variable {text rest : List Char}

theorem skipEscaped_short {c : Char} (hc : c ≠ 'u') (text : List Char) :
    skipEscaped (c :: text) =
      if (shortEscape c).isSome then .ok text else .error (.next .invalidEscape (c :: text)) := by
  rw [skipEscaped]
  exact hc

theorem skipString_quote (text : List Char) : skipString ('"' :: text) = .ok text := by
  rw [skipString]

theorem skipString_unit {n : Nat} (h : hexFour text = .ok (n, rest)) :
    skipString ('\\' :: 'u' :: text) = skipString rest :=
  skipString_escape (congrArg (Except.map _) h)

/-- A pair of surrogates is one character to a reader and two escapes to pass over. -/
theorem skipString_escaped {c : Char} (h : escaped text = .ok (c, rest)) :
    skipString ('\\' :: text) = skipString rest := by
  cases text with
  | nil => contradiction
  | cons d text =>
    by_cases hd : d = 'u'
    · subst hd
      have h : codeUnit text = .ok (c, rest) := h
      unfold codeUnit at h
      split at h
      · contradiction
      · next n tail hx =>
        rw [skipString_unit hx]
        split at h
        · contradiction
        · split at h
          · obtain ⟨low, m, rfl, hlow⟩ := trailing_ok h
            exact skipString_unit hlow
          · cases h
            rfl
    · rw [escaped_short hd] at h
      refine skipString_escape ?_
      rw [skipEscaped_short hd]
      cases hs : shortEscape d with
      | none =>
        rw [hs] at h
        contradiction
      | some e =>
        rw [hs] at h
        cases h
        rfl

/-- A string that is read is passed over as far. -/
theorem skipString_of_stringBody {cs : List Char} (h : stringBody text = .ok (cs, rest)) :
    skipString text = .ok rest := by
  induction hn : text.length using Nat.strongRecOn generalizing text cs with
  | ind n ih =>
    cases text with
    | nil =>
      rw [stringBody] at h
      contradiction
    | cons c text =>
      by_cases hq : c = '"'
      · subst hq
        rw [stringBody_quote] at h
        cases h
        exact skipString_quote _
      by_cases hb : c = '\\'
      · subst hb
        cases he : escaped text with
        | error f =>
          rw [stringBody_broken he] at h
          contradiction
        | ok p =>
          obtain ⟨d, tail⟩ := p
          rw [stringBody_escape he] at h
          obtain ⟨⟨ds, last⟩, hbody, hlast⟩ := map_eq_ok h
          cases hlast
          have hlt := escaped_length he
          rw [skipString_escaped he]
          exact ih tail.length (by simp only [List.length_cons] at hn; omega) hbody rfl
      by_cases hc : c.toNat < 0x20
      · obtain ⟨f, hf⟩ := stringBody_control hc text
        cases h.symm.trans hf
      · rw [stringBody_plain (Nat.le_of_not_lt hc) hq hb] at h
        obtain ⟨⟨ds, last⟩, hbody, hlast⟩ := map_eq_ok h
        cases hlast
        rw [skipString_plain (Nat.le_of_not_lt hc) hq hb]
        exact ih text.length (by simp only [List.length_cons] at hn; omega) hbody rfl

theorem skipString_of_key {k : String} (h : key text = .ok (k, rest)) :
    skipString text = .ok rest := by
  unfold key at h
  split at h
  · contradiction
  · next hbody =>
    cases h
    exact skipString_of_stringBody hbody

theorem dropDigits_absorb (m : Nat) (text : List Char) :
    dropDigits (absorb m text).2 = dropDigits text := by
  induction text generalizing m with
  | nil => rfl
  | cons c text ih =>
    rw [absorb]
    split
    · next hc =>
      simp only [Bool.and_eq_true] at hc
      rw [ih, dropDigits, dropDigits, List.dropWhile_cons_of_pos hc.1]
    · rfl

/-- The digits of an exponent that are left are those that were too many. -/
theorem dropDigits_exponentDigits (n : Nat) (text : List Char) :
    (∀ k rest, exponentDigits n text = (some k, rest) → rest = dropDigits text) ∧
    ∀ rest, exponentDigits n text = (none, rest) → dropDigits rest = dropDigits text := by
  induction text generalizing n with
  | nil =>
    simp only [exponentDigits]
    exact ⟨fun k rest h => by cases h; rfl, fun rest h => by cases h⟩
  | cons c text ih =>
    rw [exponentDigits]
    by_cases hc : isDigit c
    · have hdrop : dropDigits (c :: text) = dropDigits text := List.dropWhile_cons_of_pos hc
      rw [if_pos hc, hdrop]
      split
      · exact ih _
      · exact ⟨fun k rest h => (by cases h), fun rest h => by cases h; rfl⟩
    · have hdrop : dropDigits (c :: text) = c :: text := List.dropWhile_cons_of_neg hc
      rw [if_neg hc, hdrop]
      exact ⟨fun k rest h => by cases h; rfl, fun rest h => by cases h⟩

section Numbers

variable {negative : Bool} {m : Nat} {e : Int} {n : Number}

theorem skipExponent_of_exponent (h : exponent negative m e text = .ok (n, rest)) :
    skipExponent text = .ok rest := by
  unfold exponent at h
  rw [skipExponent]
  split at h
  · contradiction
  · next down c tail hsign =>
    rw [hsign]
    simp only
    split at h
    · next hc =>
      rw [if_pos hc]
      obtain ⟨hsome, hnone⟩ := dropDigits_exponentDigits (digitValue c) tail
      split at h
      · next hdigits =>
        rw [floatOf_rest h, hsome _ _ hdigits]
      · next hdigits =>
        split at h
        · contradiction
        · cases h
          rw [hnone _ hdigits]
    · contradiction

theorem skipExponentOrEnd_of_exponentOrEnd (h : exponentOrEnd negative m e text = .ok (n, rest)) :
    skipExponentOrEnd text = .ok rest := by
  unfold exponentOrEnd at h
  split at h
  · exact skipExponent_of_exponent h
  · exact skipExponent_of_exponent h
  · next he hE =>
    rw [floatOf_rest h, skipExponentOrEnd]
    · exact he
    · exact hE

theorem skipAfterInteger_of_fraction (h : fraction negative m e text = .ok (n, rest)) :
    skipAfterInteger ('.' :: text) = .ok rest := by
  rw [skipAfterInteger]
  unfold fraction at h
  split at h
  · contradiction
  · next c tail =>
    split at h
    · next hc =>
      have hd : startsWithDigit (c :: tail) = true := hc
      have hdrop := dropDigits_absorb m (c :: tail)
      generalize absorb m (c :: tail) = taken at h hdrop
      rw [if_pos hd, ← hdrop]
      exact skipExponentOrEnd_of_exponentOrEnd h
    · contradiction

theorem skipAfterInteger_plain (hp : ∀ tail, text ≠ '.' :: tail) :
    skipAfterInteger text = skipExponentOrEnd text := by
  rw [skipAfterInteger]
  exact hp

theorem skipAfterInteger_of_afterInteger (h : afterInteger negative m text = .ok (n, rest)) :
    skipAfterInteger text = .ok rest := by
  unfold afterInteger at h
  split at h
  · exact skipAfterInteger_of_fraction h
  · rw [skipAfterInteger_plain (by simp)]
    exact skipExponent_of_exponent h
  · rw [skipAfterInteger_plain (by simp)]
    exact skipExponent_of_exponent h
  · next hp he hE =>
    cases h
    rw [skipAfterInteger_plain hp, skipExponentOrEnd]
    · exact he
    · exact hE

/-- A long number is passed over behind the digits its significand did not take. -/
theorem skipAfterInteger_of_longNumber (h : longNumber negative m text = .ok (n, rest)) :
    skipAfterInteger (dropDigits text) = .ok rest := by
  simp only [longNumber] at h
  split at h
  · next hp =>
    rw [hp]
    exact skipAfterInteger_of_fraction h
  · next hp =>
    rw [skipAfterInteger_plain hp]
    exact skipExponentOrEnd_of_exponentOrEnd h

theorem skipNumber_of_number (h : number negative text = .ok (n, rest)) :
    skipNumber text = .ok rest := by
  unfold number at h
  split at h
  · contradiction
  · next tail =>
    rw [skipNumber]
    split at h
    · contradiction
    · next hd =>
      rw [if_neg hd]
      exact skipAfterInteger_of_afterInteger h
  · next c tail hz =>
    rw [skipNumber]
    · split at h
      · next hc =>
        have hdrop := dropDigits_absorb (digitValue c) tail
        generalize absorb (digitValue c) tail = taken at h hdrop
        obtain ⟨m, left⟩ := taken
        rw [if_pos hc, ← hdrop]
        simp only at h
        split at h
        · exact skipAfterInteger_of_longNumber h
        · next hd =>
          rw [dropDigits_of_ends (by simpa using hd)]
          exact skipAfterInteger_of_afterInteger h
      · contradiction
    · exact hz

end Numbers

/-- A reader stops where passing over a value stops. -/
def Spans (r : Reader α) : Prop :=
  ∀ nests text a rest, r.run text = .ok (a, rest) →
    skipNested nests .value text = skipNested nests .after rest

/-- Two readers that both succeed leave the same rest. -/
theorem Spans.rest_eq {r : Reader α} {r' : Reader β} (h : Spans r) (h' : Spans r') {a : α} {b : β}
    {rest' : List Char} (hr : r.run text = .ok (a, rest)) (hr' : r'.run text = .ok (b, rest')) :
    rest = rest' := by
  have hskip : skipNested [] .after rest = skipNested [] .after rest' := by
    rw [← h [] text a rest hr, ← h' [] text b rest' hr']
  rw [skipNested, skipNested] at hskip
  cases hskip
  rfl

theorem Spans.map {r : Reader α} (h : Spans r) (g : α → β) : Spans (r.map g) := by
  intro nests text b rest hr
  rw [Reader.map_run] at hr
  obtain ⟨⟨a, last⟩, ha, hg⟩ := map_eq_ok hr
  cases hg
  exact h nests text a _ ha

def SpansMember (r : Reader α) : Prop :=
  ∀ nests text a rest, r.run text = .ok (a, rest) →
    ∃ u, colon text = .ok u ∧ skipNested nests .value u = skipNested nests .after rest

theorem Spans.afterColon {r : Reader α} (h : Spans r) : SpansMember r.afterColon := by
  intro nests text a rest hr
  simp only [Reader.afterColon] at hr
  cases hu : colon text with
  | error f =>
    rw [hu] at hr
    contradiction
  | ok u =>
    rw [hu] at hr
    exact ⟨u, rfl, h nests u a rest hr⟩

/-- The items of a list stop at the bracket where passing over the list stops. -/
theorem items_spans {item : Reader α} (h : Spans item) {first : Bool} {as : List α}
    (hr : items item first text = .ok (as, rest)) (nests : List Nest) :
    ∃ turn, nextItem first text = .ok turn ∧ passItem nests turn = skipNested nests .after rest := by
  rw [items_iff] at hr
  induction hr with
  | done ht => exact ⟨_, ht, rfl⟩
  | entry ht ha _ ih =>
    obtain ⟨turn, hturn, hpass⟩ := ih
    exact ⟨_, ht, by rw [passItem, h _ _ _ _ ha, skipNested_item hturn, hpass]⟩

theorem membersInto_spans {member : σ → String → Reader σ} (h : ∀ acc k, SpansMember (member acc k))
    {acc acc' : σ} {first : Bool} (hr : membersInto member acc first text = .ok (acc', rest))
    (nests : List Nest) :
    ∃ turn, nextKey first text = .ok turn ∧ passMember nests turn = skipNested nests .after rest := by
  rw [membersInto_iff] at hr
  induction hr with
  | done ht => exact ⟨_, ht, rfl⟩
  | @entry first text entry value tail rest k acc acc' last ht hk hm _ ih =>
    obtain ⟨turn, hturn, hpass⟩ := ih
    obtain ⟨u, hu, hspan⟩ := h acc k (.object :: nests) value acc' tail hm
    have hskip : skipKey entry = .ok u := by
      rw [skipKey, skipString_of_key hk]
      exact hu
    refine ⟨_, ht, ?_⟩
    simp only [passMember, hskip]
    rw [hspan, skipNested_member hturn, hpass]

/-- A value that is no list and no object is passed over as a scalar. -/
theorem skipScalar_of_valueWith {list object : List Char → Reading Value} {c : Char}
    {tail : List Char} {v : Value} (hlist : c ≠ '[') (hobject : c ≠ '{')
    (h : valueWith list object (c :: tail) = .ok (v, rest)) :
    skipScalar (c :: tail) = .ok rest := by
  by_cases hc : c ∈ ['n', 't', 'f', '-', '"', '[', '{']
  · simp only [List.mem_cons, List.not_mem_nil, or_false] at hc
    rcases hc with rfl | rfl | rfl | rfl | rfl | rfl | rfl
    · obtain ⟨last, hw, hlast⟩ := map_eq_ok h
      cases hlast
      exact hw
    · obtain ⟨last, hw, hlast⟩ := map_eq_ok h
      cases hlast
      exact hw
    · obtain ⟨last, hw, hlast⟩ := map_eq_ok h
      cases hlast
      exact hw
    · obtain ⟨⟨n, last⟩, hn, hlast⟩ := map_eq_ok h
      cases hlast
      exact skipNumber_of_number hn
    · obtain ⟨⟨cs, last⟩, hbody, hlast⟩ := map_eq_ok h
      cases hlast
      exact skipString_of_stringBody hbody
    · contradiction
    · contradiction
  · rw [valueWith_other hc] at h
    split at h
    · next hd =>
      obtain ⟨⟨n, last⟩, hn, hlast⟩ := map_eq_ok h
      cases hlast
      rw [skipScalar_digit hd]
      exact skipNumber_of_number hn
    · contradiction

theorem valueWith_spans {list object : List Char → Reading Value} {nests : List Nest} {c : Char}
    {tail : List Char} {v : Value} (ht : skipSpace text = c :: tail)
    (hl : skipSpace text = '[' :: tail → list tail = .ok (v, rest) →
      skipNested nests .value text = skipNested nests .after rest)
    (ho : skipSpace text = '{' :: tail → object tail = .ok (v, rest) →
      skipNested nests .value text = skipNested nests .after rest)
    (h : valueWith list object (c :: tail) = .ok (v, rest)) :
    skipNested nests .value text = skipNested nests .after rest := by
  by_cases hlist : c = '['
  · subst hlist
    exact hl ht h
  by_cases hobject : c = '{'
  · subst hobject
    exact ho ht h
  exact skipNested_scalar ht hlist hobject (skipScalar_of_valueWith hlist hobject h)

/-- A value stops where passing over it stops, at every depth. -/
theorem value_spans (d : Nat) : Spans (value d) := by
  intro nests text v rest h
  induction d generalizing nests text v rest with
  | zero =>
    obtain ⟨c, tail, ht⟩ := value_opens h
    simp only [value, Reader.spaced, ht] at h
    exact valueWith_spans ht (fun _ hl => by contradiction) (fun _ ho => by contradiction) h
  | succ d ih =>
    obtain ⟨c, tail, ht⟩ := value_opens h
    simp only [value, Reader.spaced, ht] at h
    refine valueWith_spans ht (fun hopen hl => ?_) (fun hopen ho => ?_) h
    · obtain ⟨⟨vs, last⟩, hitems, hlast⟩ := map_eq_ok hl
      cases hlast
      obtain ⟨turn, hturn, hpass⟩ := items_spans ih hitems nests
      rw [skipNested_list hopen hturn, hpass]
    · obtain ⟨⟨ms, last⟩, hmembers, hlast⟩ := map_eq_ok ho
      cases hlast
      have hmember : ∀ ms k, SpansMember (addMember (value d) ms k) :=
        fun ms k => (Spans.map ih _).afterColon
      obtain ⟨turn, hturn, hpass⟩ := membersInto_spans hmember hmembers nests
      rw [skipNested_object hopen hturn, hpass]

inductive NumberAt (text : List Char) (n : Number) (rest : List Char) : Prop
  | negative {tail : List Char} (ht : skipSpace text = '-' :: tail)
      (h : number true tail = .ok (n, rest)) : NumberAt text n rest
  | positive {c : Char} {tail : List Char} (ht : skipSpace text = c :: tail) (hc : isDigit c)
      (h : number false (c :: tail) = .ok (n, rest)) : NumberAt text n rest

theorem unsigned_iff {m : Nat} :
    unsigned.run text = .ok (m, rest) ↔ ∃ n, NumberAt text n rest ∧ wordOfNumber n = .ok m := by
  constructor
  · intro h
    simp only [unsigned, Reader.spaced] at h
    split at h
    · contradiction
    · next ht =>
      obtain ⟨n, hn, hword⟩ := checked_ok h
      exact ⟨n, .negative ht hn, hword⟩
    · next ht =>
      split at h
      · next hc =>
        obtain ⟨n, hn, hword⟩ := checked_ok h
        exact ⟨n, .positive ht hc hn, hword⟩
      · contradiction
  · rintro ⟨n, ⟨ht, h⟩ | @⟨c, tail, ht, hc, h⟩, hword⟩
    · simp only [unsigned, Reader.spaced, ht, h, checked, hword]
    · have hne : c ≠ '-' := ne_of_isDigit hc (by decide)
      simp [unsigned, Reader.spaced, ht, hc, h, checked, hword]

theorem NumberAt.passed {n : Number} (h : NumberAt text n rest) (nests : List Nest) :
    skipNested nests .value text = skipNested nests .after rest := by
  rcases h with ⟨ht, h⟩ | ⟨ht, hc, h⟩
  · exact skipNested_scalar ht (by decide) (by decide) (skipNumber_of_number h)
  · refine skipNested_scalar ht (ne_of_isDigit hc (by decide)) (ne_of_isDigit hc (by decide)) ?_
    rw [skipScalar_digit hc]
    exact skipNumber_of_number h

theorem unsigned_spans : Spans unsigned := by
  intro nests text m rest h
  obtain ⟨n, hn, -⟩ := unsigned_iff.mp h
  exact hn.passed nests

end Switchboard.Json
