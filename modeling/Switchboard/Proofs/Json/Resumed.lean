import Switchboard.Proofs.Json.Onward
import Switchboard.Proofs.Json.Turns

/-!
Values with more text behind them. A value that is read off the front of a text is read off the
longer text too. A value that is cut off is not mended by what follows on the next line, if that
line begins with no punctuation and neither does what stands behind its first value.
-/

namespace Switchboard.Json

def Stops (s : List Char) : Prop :=
  ∀ c t, skipSpace s = c :: t → c ∉ [',', ':', ']', '}', '"']

/-- Text that does not go on with what stands before it: with a number never, and with a list or an
object not if it begins a new line. -/
structure Apart (s : List Char) : Prop where
  ends : continuesNumber s = false
  stops : Newline s → Stops s
  value_stops : Newline s → ∀ d v rest, (value d).run s = .ok (v, rest) → Stops rest

/-- What becomes of a reading when `s` follows its text and may even be all that is read. -/
inductive Resumed (s : List Char) : Reading α → Reading α → Prop
  | onward {x y : Reading α} (h : Onward s x y) : Resumed s x y
  | behind (f : Fault) (a : α) (rest : List Char) (h : Stops rest) :
      Resumed s (.error f) (.ok (a, rest))

def Turn.followed (s : List Char) : Turn → Turn
  | .entry text => .entry (text ++ s)
  | .done rest => .done (rest ++ s)

variable {s text rest : List Char} {x y : Reading α}

theorem Resumed.map (h : Resumed s x y) (g : α → β) :
    Resumed s (x.map fun (a, rest) => (g a, rest)) (y.map fun (a, rest) => (g a, rest)) := by
  cases h with
  | onward h => exact .onward (h.map g)
  | behind f a rest hr => exact .behind f (g a) rest hr

theorem Apart.of_inline (hs : continuesNumber s = false) (hn : ¬ Newline s) : Apart s :=
  ⟨hs, fun h => absurd h hn, fun h => absurd h hn⟩

theorem skipSpace_append_nil (h : skipSpace text = []) : skipSpace (text ++ s) = skipSpace s := by
  rw [skipSpace, List.dropWhile_append, ← skipSpace, h]
  rfl

theorem skipSpace_append_cons {c : Char} (h : skipSpace text = c :: rest) :
    skipSpace (text ++ s) = c :: (rest ++ s) := by
  rw [skipSpace, List.dropWhile_append, ← skipSpace, h]
  rfl

/-- What comes next in a longer text comes from the text, or from behind it if the text is blank. -/
theorem skipSpace_append_cases {c : Char} {u : List Char} (h : skipSpace (text ++ s) = c :: u) :
    (∃ rest, skipSpace text = c :: rest ∧ u = rest ++ s) ∨
      (skipSpace text = [] ∧ skipSpace s = c :: u) := by
  cases ht : skipSpace text with
  | nil => exact .inr ⟨rfl, skipSpace_append_nil (s := s) ht ▸ h⟩
  | cons d rest =>
    rw [skipSpace_append_cons ht] at h
    cases h
    exact .inl ⟨rest, rfl, rfl⟩

/-- A turn of a list is the same with more text behind it. -/
theorem nextItem_followed {first : Bool} {turn : Turn} (h : nextItem first text = .ok turn) :
    nextItem first (text ++ s) = .ok (turn.followed s) := by
  rw [nextItem_iff] at h ⊢
  rcases h with h | ⟨h, hc⟩ | ⟨h, hu, hc⟩
  · exact .done (skipSpace_append_cons h)
  · exact .first (skipSpace_append_cons h) hc
  · exact .further (skipSpace_append_cons h) (skipSpace_append_cons hu) hc

theorem nextKey_followed {first : Bool} {turn : Turn} (h : nextKey first text = .ok turn) :
    nextKey first (text ++ s) = .ok (turn.followed s) := by
  rw [nextKey_iff] at h ⊢
  rcases h with h | h | ⟨h, hu⟩
  · exact .done (skipSpace_append_cons h)
  · exact .first (skipSpace_append_cons h)
  · exact .further (skipSpace_append_cons h) (skipSpace_append_cons hu)

theorem taken_of_skipSpace {c : Char} (h : skipSpace s = c :: rest) : rest.length < s.length := by
  have hle := skipSpace_length s
  rw [h, List.length_cons] at hle
  exact hle

/-- Where a list is cut off, what stands behind it is an item of it or begins with punctuation that
is taken. -/
theorem nextItem_split {first : Bool} {turn : Turn} (h : nextItem first (text ++ s) = .ok turn) :
    (∃ before, nextItem first text = .ok before ∧ turn = before.followed s) ∨
      turn = .entry (skipSpace s) ∨ ¬ Stops s ∧ turn.text.length < s.length := by
  simp only [nextItem_iff] at h ⊢
  rcases h with h | ⟨h, hc⟩ | ⟨h, hu, hc⟩
  · obtain ⟨rest, ht, rfl⟩ | ⟨-, ht⟩ := skipSpace_append_cases h
    · exact .inl ⟨_, .done ht, rfl⟩
    · exact .inr (.inr ⟨fun hs => absurd (hs _ _ ht) (by decide), taken_of_skipSpace ht⟩)
  · obtain ⟨rest, ht, rfl⟩ | ⟨-, ht⟩ := skipSpace_append_cases h
    · exact .inl ⟨_, .first ht hc, rfl⟩
    · exact .inr (.inl (by rw [ht]))
  · obtain ⟨u, ht, rfl⟩ | ⟨-, ht⟩ := skipSpace_append_cases h
    · obtain ⟨rest, hr, rfl⟩ | ⟨-, hr⟩ := skipSpace_append_cases hu
      · exact .inl ⟨_, .further ht hr hc, rfl⟩
      · exact .inr (.inl (by rw [hr]))
    · refine .inr (.inr ⟨fun hs => absurd (hs _ _ ht) (by decide), ?_⟩)
      exact Nat.lt_of_le_of_lt (hu ▸ skipSpace_length _) (taken_of_skipSpace ht)

/-- Where an object is cut off, what stands behind it begins with punctuation that is taken. -/
theorem nextKey_split {first : Bool} {turn : Turn} (h : nextKey first (text ++ s) = .ok turn) :
    (∃ before, nextKey first text = .ok before ∧ turn = before.followed s) ∨
      ¬ Stops s ∧ turn.text.length < s.length := by
  simp only [nextKey_iff] at h ⊢
  rcases h with h | h | ⟨h, hu⟩
  · obtain ⟨rest, ht, rfl⟩ | ⟨-, ht⟩ := skipSpace_append_cases h
    · exact .inl ⟨_, .done ht, rfl⟩
    · exact .inr ⟨fun hs => absurd (hs _ _ ht) (by decide), taken_of_skipSpace ht⟩
  · obtain ⟨rest, ht, rfl⟩ | ⟨-, ht⟩ := skipSpace_append_cases h
    · exact .inl ⟨_, .first ht, rfl⟩
    · exact .inr ⟨fun hs => absurd (hs _ _ ht) (by decide), taken_of_skipSpace ht⟩
  · obtain ⟨u, ht, rfl⟩ | ⟨-, ht⟩ := skipSpace_append_cases h
    · obtain ⟨rest, hr, rfl⟩ | ⟨-, hr⟩ := skipSpace_append_cases hu
      · exact .inl ⟨_, .further ht hr, rfl⟩
      · exact .inr ⟨fun hs => absurd (hs _ _ hr) (by decide), taken_of_skipSpace hr⟩
    · refine .inr ⟨fun hs => absurd (hs _ _ ht) (by decide), ?_⟩
      exact Nat.lt_trans (taken_of_skipSpace hu) (taken_of_skipSpace ht)

/-- Where a list is cut off, the text behind it can only stand for an item of it. -/
theorem nextItem_behind (hs : Stops s) {first : Bool} {turn : Turn}
    (h : nextItem first (text ++ s) = .ok turn) :
    (∃ before, nextItem first text = .ok before ∧ turn = before.followed s) ∨
      turn = .entry (skipSpace s) := by
  obtain hbefore | hentry | ⟨hn, -⟩ := nextItem_split h
  · exact .inl hbefore
  · exact .inr hentry
  · exact absurd hs hn

/-- Where an object is cut off, the text behind it does not go on with it. -/
theorem nextKey_behind (hs : Stops s) {first : Bool} {turn : Turn}
    (h : nextKey first (text ++ s) = .ok turn) :
    ∃ before, nextKey first text = .ok before ∧ turn = before.followed s := by
  obtain hbefore | ⟨hn, -⟩ := nextKey_split h
  · exact hbefore
  · exact absurd hs hn

theorem colon_followed (h : colon text = .ok rest) : colon (text ++ s) = .ok (rest ++ s) :=
  colon_iff.mpr (skipSpace_append_cons (colon_iff.mp h))

theorem colon_split {u : List Char} (h : colon (text ++ s) = .ok u) :
    (∃ rest, colon text = .ok rest ∧ u = rest ++ s) ∨ ¬ Stops s ∧ u.length < s.length := by
  simp only [colon_iff] at h ⊢
  obtain ⟨rest, ht, rfl⟩ | ⟨-, ht⟩ := skipSpace_append_cases h
  · exact .inl ⟨rest, ht, rfl⟩
  · exact .inr ⟨fun hs => absurd (hs _ _ ht) (by decide), taken_of_skipSpace ht⟩

/-- A colon is not found behind the text. -/
theorem colon_behind (hs : Stops s) {u : List Char} (h : colon (text ++ s) = .ok u) :
    ∃ rest, colon text = .ok rest ∧ u = rest ++ s := by
  obtain hrest | ⟨hn, -⟩ := colon_split h
  · exact hrest
  · exact absurd hs hn

theorem Stops.nextItem (h : Stops rest) : ∃ f, nextItem false rest = .error f := by
  cases hn : Json.nextItem false rest with
  | error f => exact ⟨f, rfl⟩
  | ok turn =>
    rcases nextItem_iff.mp hn with ht | _ | ⟨ht, -, -⟩
    · exact absurd (h _ _ ht) (by decide)
    · exact absurd (h _ _ ht) (by decide)

theorem Stops.nextKey (h : Stops rest) : ∃ f, nextKey false rest = .error f := by
  cases hn : Json.nextKey false rest with
  | error f => exact ⟨f, rfl⟩
  | ok turn =>
    rcases nextKey_iff.mp hn with ht | _ | ⟨ht, -⟩
    · exact absurd (h _ _ ht) (by decide)
    · exact absurd (h _ _ ht) (by decide)

/-- What is read right behind an empty text ends the list or object it would belong to. -/
theorem Resumed.of_nil {r : Reader α} (h : Resumed s (r.run []) (r.run s)) (hn : Newline s) :
    (∃ f, r.run s = .error f) ∨ ∃ a rest, r.run s = .ok (a, rest) ∧ Stops rest := by
  cases hx : r.run [] with
  | ok p => exact absurd (r.consumes hx) (Nat.not_lt_zero _)
  | error f =>
    rw [hx] at h
    generalize r.run s = y at h ⊢
    rcases h with h | ⟨-, a, rest, hrest⟩
    · cases h with
      | error f g => exact .inl ⟨g, rfl⟩
      | broken f y h => exact absurd hn h
    · exact .inr ⟨a, rest, rfl, hrest⟩

/-- A reading that goes on with what was read: nothing can be made of a value that stands behind. -/
theorem Resumed.bind {k : α → List Char → Reading β}
    (hk : ∀ a rest, x = .ok (a, rest) → Onward s (k a rest) (k a (rest ++ s)))
    (hstop : ∀ a rest, Stops rest → ∃ f, k a rest = .error f) :
    Resumed s x y → Onward s
      (match x with
        | .error f => .error f
        | .ok (a, rest) => k a rest)
      (match y with
        | .error f => .error f
        | .ok (a, rest) => k a rest) := by
  rintro (h | ⟨f, a, rest, hrest⟩)
  · cases h with
    | ok a rest => exact hk a rest rfl
    | error => exact .error ..
    | broken f y hn => exact .broken _ _ hn
  · obtain ⟨g, hg⟩ := hstop a rest hrest
    simp only [hg]
    exact .error ..

section Cut

variable (hs : Newline s → Stops s)
include hs

theorem Resumed.afterColon {r : Reader α}
    (h : ∀ text, Resumed s (r.run text) (r.run (text ++ s))) (text : List Char) :
    Resumed s (r.afterColon.run text) (r.afterColon.run (text ++ s)) := by
  cases hx : colon text with
  | ok rest =>
    simp only [Reader.afterColon, hx, colon_followed hx]
    exact h rest
  | error f =>
    simp only [Reader.afterColon, hx]
    refine .onward (.of_newline fun p hp => ?_)
    cases hy : colon (text ++ s) with
    | error g => exact ⟨g, rfl⟩
    | ok u =>
      obtain ⟨rest, hrest, -⟩ := colon_behind (hs ⟨p, hp⟩) hy
      cases hx.symm.trans hrest

/-- The items of a list go onward if each item does, or is the first thing behind the text. -/
theorem items_onward {item : Reader α} (hskip : ∀ text, item.run (skipSpace text) = item.run text)
    (h : ∀ text, Resumed s (item.run text) (item.run (text ++ s))) (first : Bool)
    (text : List Char) : Onward s (items item first text) (items item first (text ++ s)) := by
  have hstop : ∀ (g : List α × List Char → List α × List Char) rest, Stops rest →
      ∃ f, (items item false rest).map g = .error f := by
    intro g rest hrest
    obtain ⟨f, hf⟩ := hrest.nextItem
    exact ⟨f, by rw [items_fault hf]; rfl⟩
  induction hn : text.length using Nat.strongRecOn generalizing first text with
  | ind n ih =>
    cases ht : nextItem first text with
    | error f =>
      rw [items_fault ht]
      refine .of_newline fun p hp => ?_
      cases hy : nextItem first (text ++ s) with
      | error g => exact ⟨g, items_fault hy⟩
      | ok turn =>
        obtain ⟨before, hbefore, -⟩ | rfl := nextItem_behind (hs ⟨p, hp⟩) hy
        · cases ht.symm.trans hbefore
        -- The list is cut off where an item is due, and what stands behind is read as that item;
        -- a list needs a comma or a bracket after it, and finds neither.
        rw [items_entry hy, hskip]
        obtain ⟨g, hg⟩ | ⟨a, rest, hrest, hstops⟩ := (h []).of_nil ⟨p, hp⟩
        · rw [hg]
          exact ⟨g, rfl⟩
        · rw [hrest]
          exact hstop _ rest hstops
    | ok turn =>
      have hf := nextItem_followed (s := s) ht
      have hlen := nextItem_length ht
      cases turn with
      | done rest =>
        rw [items_done ht, items_done hf]
        exact .ok [] rest
      | entry entry =>
        rw [items_entry ht, items_entry hf]
        refine Resumed.bind (fun a rest hx => ?_) (fun a => hstop _) (h entry)
        have hlt := item.consumes hx
        exact (ih rest.length (by simp only [Turn.text] at hlen; omega) false rest rfl).map (a :: ·)

theorem membersInto_onward {member : σ → String → Reader σ}
    (h : ∀ acc k text, Resumed s ((member acc k).run text) ((member acc k).run (text ++ s)))
    (acc : σ) (first : Bool) (text : List Char) :
    Onward s (membersInto member acc first text) (membersInto member acc first (text ++ s)) := by
  induction hn : text.length using Nat.strongRecOn generalizing acc first text with
  | ind n ih =>
    cases ht : nextKey first text with
    | error f =>
      rw [membersInto_fault ht]
      refine .of_newline fun p hp => ?_
      cases hy : nextKey first (text ++ s) with
      | error g => exact ⟨g, membersInto_fault hy⟩
      | ok turn =>
        -- Unlike an item, a key never stands behind: a turn found now was there without that text.
        obtain ⟨before, hbefore, -⟩ := nextKey_behind (hs ⟨p, hp⟩) hy
        cases ht.symm.trans hbefore
    | ok turn =>
      have hf := nextKey_followed (s := s) ht
      have hlen := nextKey_length ht
      cases turn with
      | done rest =>
        rw [membersInto_done ht, membersInto_done hf]
        exact .ok acc rest
      | entry entry =>
        have hkey := (key_lengthened (s := s) entry).onward
        cases hk : key entry with
        | error f =>
          rw [hk] at hkey
          rw [membersInto_key_fault ht hk]
          exact hkey.of_failure fun g hg => ⟨g, membersInto_key_fault hf hg⟩
        | ok p =>
          obtain ⟨k, value⟩ := p
          rw [hk] at hkey
          rw [membersInto_entry ht hk, membersInto_entry hf hkey.of_ok]
          refine Resumed.bind (fun acc' rest hx => ?_) (fun acc' rest hrest => ?_) (h acc k value)
          · have hkeyLt := key_length hk
            have hlt := (member acc k).consumes hx
            exact ih rest.length (by simp only [Turn.text] at hlen; omega) acc' false rest rfl
          · obtain ⟨f, hf⟩ := hrest.nextKey
            exact ⟨f, membersInto_fault hf⟩

end Cut

theorem valueWith_other {list object : List Char → Reading Value} {c : Char}
    (hc : c ∉ ['n', 't', 'f', '-', '"', '[', '{']) (text : List Char) :
    valueWith list object (c :: text) =
      if isDigit c then (number false (c :: text)).map fun (n, rest) => (.number n, rest)
      else .error (.next .expectedValue (c :: text)) := by
  rw [valueWith]
  all_goals
    rintro rfl
    exact hc (by decide)

/-- What holds of every lexeme that is lengthened, and of the lists and objects, holds of values. -/
theorem valueWith_lengthened {R : Reading Value → Reading Value → Prop}
    (hR : ∀ {x y}, Lengthened s x y → R x y) {list object : List Char → Reading Value}
    (hs : continuesNumber s = false) (hl : ∀ text, R (list text) (list (text ++ s)))
    (ho : ∀ text, R (object text) (object (text ++ s))) (c : Char) (text : List Char) :
    R (valueWith list object (c :: text)) (valueWith list object (c :: text ++ s)) := by
  by_cases hc : c ∈ ['n', 't', 'f', '-', '"', '[', '{']
  · simp only [List.mem_cons, List.not_mem_nil, or_false] at hc
    rcases hc with rfl | rfl | rfl | rfl | rfl | rfl | rfl
    · exact hR (word_lengthened Value.null ['u', 'l', 'l'] (by decide) text)
    · exact hR (word_lengthened (Value.boolean true) ['r', 'u', 'e'] (by decide) text)
    · exact hR (word_lengthened (Value.boolean false) ['a', 'l', 's', 'e'] (by decide) text)
    · exact hR ((number_lengthened hs true text).map Value.number)
    · exact hR ((stringBody_lengthened text).map fun cs => Value.string (String.ofList cs))
    · exact hl text
    · exact ho text
  · rw [List.cons_append, valueWith_other hc, valueWith_other hc]
    split
    · exact hR ((number_lengthened hs false (c :: text)).map Value.number)
    · exact hR (.error ..)

theorem value_skipSpace (d : Nat) (text : List Char) :
    (value d).run (skipSpace text) = (value d).run text := by
  cases d <;> simp only [value, Reader.spaced, skipSpace_skipSpace]

theorem value_blank (d : Nat) (h : skipSpace text = []) :
    (value d).run text = .error (.here .missingValue []) := by
  obtain ⟨list, object, hv⟩ := value_run d text
  rw [hv, h, valueWith]

theorem value_opens {d : Nat} {v : Value} (h : (value d).run text = .ok (v, rest)) :
    ∃ c tail, skipSpace text = c :: tail := by
  refine List.exists_cons_of_ne_nil fun ht => ?_
  rw [value_blank d ht] at h
  contradiction

/-- Behind blanks alone a value is read off what follows, and elsewhere it goes onward. -/
theorem value_resumed (ha : Apart s) {d : Nat}
    (h : ∀ text, skipSpace text ≠ [] → Onward s ((value d).run text) ((value d).run (text ++ s)))
    (text : List Char) : Resumed s ((value d).run text) ((value d).run (text ++ s)) := by
  by_cases ht : skipSpace text = []
  · have hy : (value d).run (text ++ s) = (value d).run s := by
      rw [← value_skipSpace, skipSpace_append_nil ht, value_skipSpace]
    rw [value_blank d ht, hy]
    by_cases hn : Newline s
    · cases hs : (value d).run s with
      | error f => exact .onward (.error ..)
      | ok p => exact .behind _ _ _ (ha.value_stops hn d p.1 p.2 hs)
    · exact .onward (.broken _ _ hn)
  · exact .onward (h text ht)

/-- A value reads the same with text behind it that stands apart, and stays unread. -/
theorem value_onward (ha : Apart s) (d : Nat) (ht : skipSpace text ≠ []) :
    Onward s ((value d).run text) ((value d).run (text ++ s)) := by
  induction d generalizing text with
  | zero =>
    obtain ⟨c, rest, hc⟩ := List.exists_cons_of_ne_nil ht
    simp only [value, Reader.spaced, hc, skipSpace_append_cons hc]
    exact valueWith_lengthened (·.onward) ha.ends (fun _ => .error ..) (fun _ => .error ..) c rest
  | succ d ih =>
    obtain ⟨c, rest, hc⟩ := List.exists_cons_of_ne_nil ht
    have hitem := value_resumed ha fun text ht => ih ht
    simp only [value, Reader.spaced, hc, skipSpace_append_cons hc]
    refine valueWith_lengthened (·.onward) ha.ends (fun text => ?_) (fun text => ?_) c rest
    · exact (items_onward ha.stops (value_skipSpace d) hitem true text).map Value.array
    · refine (membersInto_onward ha.stops (fun ms k text => ?_) [] true text).map Value.object
      refine .afterColon ha.stops (fun text => ?_) text
      rw [Reader.map_run, Reader.map_run]
      exact (hitem text).map fun v => insertMember k v ms

end Switchboard.Json
