import Switchboard.Link.Basic

namespace Switchboard.Link

open Message (Id Response Unreadable)

/-- Everything but log lines can be seen from outside. -/
def Effect.isSeen : Effect → Bool
  | .log _ => false
  | _ => true

def seen (es : List Effect) : List Effect := es.filter Effect.isSeen

def Effect.outcomeFor (c : Caller) : Effect → Option Outcome
  | .settle s => if s.caller = c then some s.outcome else none
  | _ => none

def told (c : Caller) (es : List Effect) : List Outcome := es.filterMap (Effect.outcomeFor c)

@[simp] theorem seen_nil : seen [] = [] := rfl

@[simp] theorem seen_append (es fs : List Effect) : seen (es ++ fs) = seen es ++ seen fs :=
  List.filter_append ..

@[simp] theorem seen_note (level : Level) (message : String) (fields : List (String × String))
    (es : List Effect) : seen (note level message fields :: es) = seen es := rfl

@[simp] theorem seen_verbosely (l : Link) (message : String) (fields : List (String × String)) :
    seen (l.verbosely message fields) = [] := by
  unfold verbosely
  split <;> rfl

theorem seen_map (f : α → Effect) (h : ∀ a, (f a).isSeen = true) (as : List α) :
    seen (as.map f) = as.map f := by
  apply List.filter_eq_self.mpr
  intro e he
  obtain ⟨a, _, rfl⟩ := List.mem_map.mp he
  exact h a

/-- A view that passes over log lines depends on what can be seen only. -/
theorem filterMap_seen (f : Effect → Option β) (h : ∀ line, f (.log line) = none)
    (es : List Effect) : (seen es).filterMap f = es.filterMap f := by
  unfold seen
  rw [List.filterMap_filter]
  congr 1
  funext e
  cases e <;> simp [Effect.isSeen, h]

theorem filterMap_map_none (f : Effect → Option β) (g : α → Effect) (h : ∀ a, f (g a) = none)
    (as : List α) : (as.map g).filterMap f = [] := by
  simp [h]

@[simp] theorem told_seen (c : Caller) (es : List Effect) : told c (seen es) = told c es :=
  filterMap_seen _ (fun _ => rfl) es

@[simp] theorem told_nil (c : Caller) : told c [] = [] := rfl

@[simp] theorem told_append (c : Caller) (es fs : List Effect) :
    told c (es ++ fs) = told c es ++ told c fs :=
  List.filterMap_append ..

theorem told_settle (c : Caller) (s : Settlement) :
    told c [.settle s] = if s.caller = c then [s.outcome] else [] := by
  unfold told
  by_cases h : s.caller = c <;> simp [Effect.outcomeFor, h]

theorem told_map (c : Caller) {f : α → Effect} (h : ∀ a, (f a).outcomeFor c = none)
    (as : List α) : told c (as.map f) = [] :=
  filterMap_map_none _ _ h _

/-- Settling a call strikes out its id, whether it waits or not. -/
theorem Pending.settle_fst (p : Pending) (id : Id) (o : Outcome) :
    (p.settle id o).1 = p.erase id := by
  unfold Pending.settle
  split
  · rfl
  · rename_i h
    have hall : ∀ w ∈ p.waiting, w.1 != id := by
      intro w hw
      rw [bne, Bool.beq_comm]
      exact List.lookup_eq_none_iff.mp h w hw
    rw [Pending.erase, List.filter_eq_self.mpr hall]

theorem Pending.settle_snd (p : Pending) (id : Id) (o : Outcome) :
    (p.settle id o).2 = ((p.caller? id).map (Settlement.mk · o)).toList := by
  unfold Pending.settle
  cases p.caller? id <;> rfl

theorem Pending.caller?_erase (p : Pending) {id id' : Id} (h : id ≠ id') :
    (p.erase id').caller? id = p.caller? id := by
  unfold Pending.caller? Pending.erase
  simp only
  induction p.waiting with
  | nil => rfl
  | cons w ws ih =>
    obtain ⟨i, c⟩ := w
    by_cases hi : i = id'
    · have hne : (id == i) = false := by simpa [hi] using h
      rw [List.filter_cons_of_neg (by simpa using hi), ih, List.lookup_cons, hne]
    · rw [List.filter_cons_of_pos (by simpa using hi), List.lookup_cons, List.lookup_cons, ih]

theorem Pending.caller?_erase_self (p : Pending) (id : Id) : (p.erase id).caller? id = none := by
  apply List.lookup_eq_none_iff.mpr
  intro w hw
  have hne := (List.mem_filter.mp hw).2
  rwa [bne, Bool.beq_comm] at hne

def Pending.idsOf (p : Pending) (c : Caller) : List Id :=
  (p.waiting.filter (·.2 == c)).map (·.1)

/-- The ids that wait have been given out since the start, and wait once each. -/
structure Pending.Sound (p : Pending) : Prop where
  sorted : p.waiting.Pairwise (·.1 < ·.1)
  given : ∀ w ∈ p.waiting, 1 ≤ w.1 ∧ w.1 ≤ p.last

theorem Pending.mem_idsOf {p : Pending} {c : Caller} {id : Id} :
    id ∈ p.idsOf c ↔ (id, c) ∈ p.waiting := by
  unfold Pending.idsOf
  constructor
  · intro h
    obtain ⟨⟨i, d⟩, hm, rfl⟩ := List.mem_map.mp h
    obtain ⟨hw, hd⟩ := List.mem_filter.mp hm
    have he : d = c := by simpa using hd
    exact he ▸ hw
  · intro h
    exact List.mem_map.mpr ⟨(id, c), List.mem_filter.mpr ⟨h, by simp⟩, rfl⟩

theorem Pending.Sound.empty : Pending.Sound {} :=
  ⟨List.Pairwise.nil, by simp⟩

/-- A new id is one more than the last, and so is not waiting yet. -/
theorem Pending.Sound.register {p : Pending} (hp : p.Sound) (c : Caller) :
    (p.register c).Sound := by
  constructor
  · refine List.pairwise_append.mpr ⟨hp.sorted, List.pairwise_singleton _ _, ?_⟩
    intro w hw v hv
    rw [List.mem_singleton.mp hv]
    exact Nat.lt_succ_of_le (hp.given w hw).2
  · intro w hw
    change 1 ≤ w.1 ∧ w.1 ≤ p.last + 1
    rcases List.mem_append.mp hw with h | h
    · obtain ⟨h1, h2⟩ := hp.given w h
      exact ⟨h1, Nat.le_succ_of_le h2⟩
    · rw [List.mem_singleton.mp h]
      exact ⟨Nat.succ_pos _, Nat.le_refl _⟩

theorem Pending.Sound.sublist {p q : Pending} (hp : p.Sound) (hl : q.last = p.last)
    (hw : q.waiting.Sublist p.waiting) : q.Sound :=
  ⟨hp.sorted.sublist hw, fun w hm => hl ▸ hp.given w (hw.subset hm)⟩

theorem Pending.Sound.settle {p : Pending} (hp : p.Sound) (id : Id) (o : Outcome) :
    (p.settle id o).1.Sound := by
  rw [p.settle_fst]
  exact hp.sublist rfl List.filter_sublist

theorem Pending.Sound.settleAll {p : Pending} (hp : p.Sound) (o : Outcome) :
    (p.settleAll o).1.Sound :=
  hp.sublist rfl (List.nil_sublist _)

/-- Whoever waits under an id is found there. -/
theorem Pending.Sound.caller?_iff {p : Pending} (hp : p.Sound) {id : Id} {c : Caller} :
    p.caller? id = some c ↔ (id, c) ∈ p.waiting := by
  unfold Pending.caller?
  have hs := hp.sorted
  generalize p.waiting = ws at hs
  induction ws with
  | nil => simp
  | cons w ws ih =>
    obtain ⟨i, d⟩ := w
    obtain ⟨hlt, hs⟩ := List.pairwise_cons.mp hs
    by_cases he : id = i
    · subst he
      have hn : (id, c) ∉ ws := fun hm => Nat.lt_irrefl id (hlt (id, c) hm)
      simp [hn, eq_comm]
    · have hb : (id == i) = false := by simpa using he
      simp [List.lookup_cons, hb, he, ih hs]

theorem Pending.idsOf_register (p : Pending) (c d : Caller) :
    (p.register d).idsOf c = p.idsOf c ++ if d = c then [p.next] else [] := by
  by_cases h : d = c <;> simp [Pending.idsOf, Pending.register, h]

theorem Pending.idsOf_register_other (p : Pending) {c d : Caller} (h : d ≠ c) :
    (p.register d).idsOf c = p.idsOf c := by
  rw [p.idsOf_register, if_neg h, List.append_nil]

theorem Pending.idsOf_erase (p : Pending) (id : Id) (c : Caller) :
    (p.erase id).idsOf c = (p.idsOf c).filter (· != id) := by
  simp only [Pending.idsOf, Pending.erase, List.filter_map, List.filter_filter]
  congr 2
  funext w
  exact Bool.and_comm _ _

theorem Pending.idsOf_settle (p : Pending) (id : Id) (o : Outcome) (c : Caller) :
    (p.settle id o).1.idsOf c = (p.idsOf c).filter (· != id) := by
  rw [p.settle_fst, p.idsOf_erase]

/-- Only the caller that waits under the id is told anything. -/
theorem settle_told {p : Pending} (hp : p.Sound) (id : Id) (o : Outcome) (c : Caller) :
    told c ((p.settle id o).2.map .settle) = if id ∈ p.idsOf c then [o] else [] := by
  unfold Pending.settle
  cases h : p.caller? id with
  | none =>
    have hn : id ∉ p.idsOf c := by
      rw [Pending.mem_idsOf, ← hp.caller?_iff, h]
      exact nofun
    rw [if_neg hn]
    rfl
  | some d =>
    have hm : id ∈ p.idsOf c ↔ d = c := by
      rw [Pending.mem_idsOf, ← hp.caller?_iff, h, Option.some.injEq]
    simp only [List.map_cons, List.map_nil, told_settle, hm]

/-- Settling all calls tells a caller one outcome for each id it waits under. -/
theorem settleAll_told (p : Pending) (o : Outcome) (c : Caller) :
    told c ((p.settleAll o).2.map .settle) = (p.idsOf c).map fun _ => o := by
  unfold told Pending.settleAll Pending.idsOf
  simp only [List.map_map, List.filterMap_map]
  induction p.waiting with
  | nil => rfl
  | cons w ws ih =>
    by_cases h : w.2 = c <;> simp [Effect.outcomeFor, h, ih]

abbrev Entry := Except Unreadable Response

def entryId? : Entry → Option Id
  | .ok r => some r.id
  | .error e => e.id?

def entryOutcome : Entry → Outcome
  | .ok r =>
    match r.outcome with
    | .ok v => .ok v
    | .error text => .error (.application text)
  | .error e => .error (.protocol e.message)

def names (id : Id) (e : Entry) : Bool := entryId? e == some id

theorem names_of_entryId? {e : Entry} {id : Id} (h : entryId? e = some id) (id' : Id) : names id' e = (id == id') := by
  rw [names, h]
  rfl

theorem names_of_none {e : Entry} (h : entryId? e = none) (id : Id) : names id e = false := by
  rw [names, h]
  rfl

theorem settleEntry_eq (p : Pending) (e : Entry) :
    (settleEntry p e).1 = ((entryId? e).map fun id => (p.settle id (entryOutcome e)).1).getD p ∧
    seen (settleEntry p e).2 =
      ((entryId? e).map fun id => (p.settle id (entryOutcome e)).2.map .settle).getD [] := by
  cases e with
  | ok r =>
    simp only [settleEntry, entryId?, entryOutcome, Option.map_some, Option.getD_some]
    generalize p.settle r.id _ = s
    obtain ⟨q, _ | ⟨t, ts⟩⟩ := s
    · exact ⟨rfl, rfl⟩
    · exact ⟨rfl, seen_map _ (fun _ => rfl) _⟩
  | error u =>
    simp only [settleEntry, entryId?, entryOutcome]
    cases u.id? with
    | none => exact ⟨rfl, rfl⟩
    | some id => exact ⟨rfl, seen_map _ (fun _ => rfl) _⟩

/-- An entry that names no id does nothing to the calls. -/
theorem settleEntry_none {p : Pending} {e : Entry} (h : entryId? e = none) :
    (settleEntry p e).1 = p ∧ seen (settleEntry p e).2 = [] := by
  have heq := settleEntry_eq p e
  rw [h] at heq
  exact heq

/-- An entry that names an id strikes it out and settles the call that waits there. -/
theorem settleEntry_some {p : Pending} {e : Entry} {id : Id} (h : entryId? e = some id) :
    (settleEntry p e).1 = p.erase id ∧
      seen (settleEntry p e).2 =
        ((p.caller? id).map fun c => .settle ⟨c, entryOutcome e⟩).toList := by
  obtain ⟨hp, hs⟩ := settleEntry_eq p e
  rw [hp, hs, h]
  simp only [Option.map_some, Option.getD_some, Pending.settle_fst, Pending.settle_snd, true_and]
  cases p.caller? id <;> rfl

/-- The entries of a frame do nothing but settle calls. -/
theorem settleEntries_seen (p : Pending) (es : List Entry) :
    ∃ ss : List Settlement, seen (settleEntries p es).2 = ss.map .settle := by
  induction es generalizing p with
  | nil => exact ⟨[], rfl⟩
  | cons e es ih =>
    obtain ⟨ss, hs⟩ := ih (settleEntry p e).1
    have he := (settleEntry_eq p e).2
    cases hid : entryId? e with
    | none =>
      rw [hid] at he
      exact ⟨ss, by simpa [settleEntries, hs] using he⟩
    | some id =>
      rw [hid] at he
      exact ⟨(p.settle id (entryOutcome e)).2 ++ ss, by simp [settleEntries, hs, he]⟩

theorem settleEntry_sound {p : Pending} (hp : p.Sound) (e : Entry) :
    (settleEntry p e).1.Sound := by
  rw [(settleEntry_eq p e).1]
  cases entryId? e with
  | none => exact hp
  | some id => exact hp.settle id _

theorem idsOf_settleEntry (p : Pending) (e : Entry) (c : Caller) :
    (settleEntry p e).1.idsOf c = (p.idsOf c).filter (!names · e) := by
  rw [(settleEntry_eq p e).1]
  unfold names
  cases entryId? e with
  | none => exact (List.filter_eq_self.mpr fun _ _ => rfl).symm
  | some id =>
    simp only [Option.map_some, Option.getD_some, Pending.idsOf_settle]
    congr 1
    funext i
    rw [bne, Bool.beq_comm]
    rfl

/-- A caller is told by an entry just if the entry names an id it waits under. -/
theorem settleEntry_told {p : Pending} (hp : p.Sound) (e : Entry) (c : Caller) :
    told c (settleEntry p e).2 = if (p.idsOf c).any (names · e) then [entryOutcome e] else [] := by
  rw [← told_seen, (settleEntry_eq p e).2]
  unfold names
  cases entryId? e with
  | none => simp
  | some id =>
    simp [settle_told hp]

theorem settleEntries_sound {p : Pending} (hp : p.Sound) (es : List Entry) :
    (settleEntries p es).1.Sound := by
  induction es generalizing p with
  | nil => exact hp
  | cons e es ih => exact ih (settleEntry_sound hp e)

/-- A caller that does not wait is told nothing by a frame. -/
theorem settleEntries_absent {p : Pending} (hp : p.Sound) {c : Caller} (h : p.idsOf c = [])
    (es : List Entry) :
    told c (settleEntries p es).2 = [] ∧ (settleEntries p es).1.idsOf c = [] := by
  induction es generalizing p with
  | nil => exact ⟨rfl, h⟩
  | cons e es ih =>
    have hi : (settleEntry p e).1.idsOf c = [] := by rw [idsOf_settleEntry, h]; rfl
    have ht : told c (settleEntry p e).2 = [] := by rw [settleEntry_told hp, h]; rfl
    obtain ⟨ht', hi'⟩ := ih (settleEntry_sound hp e) hi
    exact ⟨by simp only [settleEntries, told_append, ht, ht', List.append_nil], hi'⟩

/-- A caller that waits under one id is told by the first entry of a frame that names the id, and
waits on if there is none. -/
theorem settleEntries_awaiting {p : Pending} (hp : p.Sound) {c : Caller} {id : Id}
    (h : p.idsOf c = [id]) (es : List Entry) :
    told c (settleEntries p es).2 = ((es.find? (names id)).map entryOutcome).toList ∧
    (settleEntries p es).1.idsOf c = if (es.find? (names id)).isSome then [] else [id] := by
  induction es generalizing p with
  | nil => exact ⟨rfl, h⟩
  | cons e es ih =>
    have hi := idsOf_settleEntry p e c
    have ht := settleEntry_told hp e c
    rw [h] at hi ht
    cases hn : names id e with
    | true =>
      simp only [List.any_cons, List.any_nil, hn, Bool.or_false, ↓reduceIte, List.filter_cons,
        List.filter_nil, Bool.not_true, Bool.false_eq_true] at hi ht
      obtain ⟨ht', hi'⟩ := settleEntries_absent (settleEntry_sound hp e) hi es
      simp [settleEntries, hn, ht, ht', hi']
    | false =>
      simp only [List.any_cons, List.any_nil, hn, Bool.or_false, ↓reduceIte, List.filter_cons,
        List.filter_nil, Bool.not_false, Bool.false_eq_true] at hi ht
      obtain ⟨ht', hi'⟩ := ih (settleEntry_sound hp e) hi
      simp [settleEntries, hn, ht, ht', hi']

end Switchboard.Link
