import Mathlib.Data.List.Basic
import Switchboard.Proofs.Link.Told

namespace Switchboard.Link

open Message (Id)

variable {p : Pending} {id : Id} {e : Entry} {es : List Entry}

def namedIds : List Entry → List Id
  | [] => []
  | e :: es =>
    match entryId? e with
    | none => namedIds es
    | some id => id :: (namedIds es).filter (· != id)

/-- The settlement of the call that waits under an id, by the first entry that names the id. -/
def Pending.settlementBy? (p : Pending) (es : List Entry) (id : Id) : Option Effect :=
  match p.caller? id, es.find? (names id) with
  | some c, some e => some (.settle ⟨c, entryOutcome e⟩)
  | _, _ => none

def Pending.unnamed (p : Pending) (es : List Entry) : Pending :=
  { p with waiting := p.waiting.filter fun w => !es.any (names w.1) }

theorem mem_namedIds : id ∈ namedIds es ↔ ∃ e ∈ es, names id e := by
  induction es with
  | nil => simp [namedIds]
  | cons e es ih =>
    rw [namedIds, List.exists_mem_cons_iff, ← ih]
    cases he : entryId? e with
    | none => simp [names_of_none he]
    | some id' =>
      simp only [List.mem_cons, List.mem_filter, names_of_entryId? he, beq_iff_eq, bne_iff_ne]
      constructor
      · rintro (rfl | ⟨hm, -⟩)
        · exact .inl rfl
        · exact .inr hm
      · rintro (rfl | hm)
        · exact .inl rfl
        · by_cases hid : id = id'
          · exact .inl hid
          · exact .inr ⟨hm, hid⟩

/-- Just those calls are left whose ids no entry names. -/
theorem Pending.caller?_unnamed (p : Pending) (es : List Entry) (id : Id) :
    (p.unnamed es).caller? id = if es.any (names id) then none else p.caller? id := by
  unfold Pending.caller? Pending.unnamed
  simp only
  induction p.waiting with
  | nil => simp
  | cons w ws ih =>
    obtain ⟨i, c⟩ := w
    rw [List.filter_cons, List.lookup_cons]
    by_cases hi : id = i
    · subst hi
      cases hn : es.any (names id) with
      | true => simpa [hn] using ih
      | false => simp
    · have hb : (id == i) = false := by simpa using hi
      rw [hb]
      split
      · rw [List.lookup_cons, hb, ih]
      · exact ih

theorem Pending.unnamed_cons_none (h : entryId? e = none) (p : Pending) (es : List Entry) :
    p.unnamed (e :: es) = p.unnamed es := by
  simp only [Pending.unnamed, List.any_cons, names_of_none h, Bool.false_or]

theorem Pending.unnamed_cons_some (h : entryId? e = some id) (p : Pending) (es : List Entry) :
    p.unnamed (e :: es) = (p.erase id).unnamed es := by
  simp only [Pending.unnamed, Pending.erase, List.filter_filter, List.any_cons,
    names_of_entryId? h, Bool.not_or]
  congr 2
  funext w
  rw [Bool.and_comm, bne, Bool.beq_comm]

theorem Pending.settlementBy?_cons_none (h : entryId? e = none) :
    p.settlementBy? (e :: es) = p.settlementBy? es := by
  funext id
  rw [Pending.settlementBy?, List.find?_cons, names_of_none h, Pending.settlementBy?]

/-- What the entries behind one that names an id settle, among the calls it leaves. -/
theorem Pending.settlementBy?_erase (h : entryId? e = some id) (id' : Id) :
    (p.erase id).settlementBy? es id' =
      if id' != id then p.settlementBy? (e :: es) id' else none := by
  unfold Pending.settlementBy?
  by_cases hid : id' = id
  · subst hid
    rw [p.caller?_erase_self]
    simp
  · have hn : names id' e = false := by
      rw [names_of_entryId? h]
      exact beq_false_of_ne (Ne.symm hid)
    have hne : (id' != id) = true := bne_iff_ne.mpr hid
    rw [Pending.caller?_erase _ hid, List.find?_cons, hn, hne]
    rfl

theorem namedIds_eq_nil (h : ∀ id, es.any (names id) = false) : namedIds es = [] := by
  refine List.eq_nil_iff_forall_not_mem.mpr fun id hid => ?_
  have hany : es.any (names id) = true := List.any_eq_true.mpr (mem_namedIds.mp hid)
  rw [h id] at hany
  cases hany

theorem Pending.unnamed_eq_self (p : Pending) (h : ∀ id, es.any (names id) = false) :
    p.unnamed es = p := by
  have hall : (p.waiting.filter fun w => !es.any (names w.1)) = p.waiting :=
    List.filter_eq_self.mpr fun w _ => by rw [h w.1]; rfl
  rw [Pending.unnamed, hall]

/-- What is no envelope names no call. -/
theorem any_names_invalid (h : ∀ e ∈ es, ∃ why, e = .error (.invalidEnvelope why)) :
    es.any (names id) = false := by
  refine List.any_eq_false.mpr fun e he hn => ?_
  obtain ⟨why, rfl⟩ := h e he
  cases hn

/-- The entries of a frame settle each call they name once, by the first entry that names it. -/
theorem settleEntries_named (p : Pending) (es : List Entry) :
    (settleEntries p es).1 = p.unnamed es ∧
      seen (settleEntries p es).2 = (namedIds es).filterMap (p.settlementBy? es) := by
  induction es generalizing p with
  | nil => exact ⟨(p.unnamed_eq_self fun _ => rfl).symm, rfl⟩
  | cons e es ih =>
    obtain ⟨hp, hs⟩ := ih (settleEntry p e).1
    simp only [settleEntries, seen_append]
    rw [hp, hs, namedIds]
    cases he : entryId? e with
    | none =>
      obtain ⟨hsame, hnone⟩ := settleEntry_none (p := p) he
      rw [hsame, hnone, p.unnamed_cons_none he, Pending.settlementBy?_cons_none he]
      exact ⟨rfl, List.nil_append _⟩
    | some id =>
      obtain ⟨hstruck, hsettled⟩ := settleEntry_some (p := p) he
      have hfirst : p.settlementBy? (e :: es) id =
          (p.caller? id).map fun c => .settle ⟨c, entryOutcome e⟩ := by
        rw [Pending.settlementBy?, List.find?_cons, names_of_entryId? he, beq_self_eq_true]
        cases p.caller? id <;> rfl
      have hothers : (namedIds es).filterMap ((p.erase id).settlementBy? es) =
          ((namedIds es).filter (· != id)).filterMap (p.settlementBy? (e :: es)) := by
        rw [List.filterMap_filter]
        exact List.filterMap_congr fun id' _ => Pending.settlementBy?_erase he id'
      rw [hstruck, hsettled, hothers, p.unnamed_cons_some he, ← hfirst]
      refine ⟨rfl, ?_⟩
      simp only
      cases h : p.settlementBy? (e :: es) id <;> simp [h]

/-- A call whose id is named is settled by the first entry that names it. -/
theorem Pending.settlement_mem {c : Caller} (hc : p.caller? id = some c)
    (h : es.find? (names id) = some e) :
    .settle ⟨c, entryOutcome e⟩ ∈ (namedIds es).filterMap (p.settlementBy? es) := by
  have hid : id ∈ namedIds es :=
    mem_namedIds.mpr ⟨e, List.mem_of_find?_eq_some h, List.find?_some h⟩
  refine List.mem_filterMap.mpr ⟨id, hid, ?_⟩
  rw [Pending.settlementBy?, hc, h]

/-- A frame, whatever its text, changes nothing of a link but that the calls whose ids its entries
name wait no longer, and does nothing that can be seen but settle them. A call is settled once, by
the first entry that names its id, and any other goes on waiting. Entries that are no envelopes
settle nobody. -/
theorem frame_settles_named_calls (l : Link) (text : String) :
    let entries := Message.readFrame text
    let after := l.onMessage text
    after.1 = { l with
      pending := { l.pending with
        waiting := l.pending.waiting.filter fun w => !entries.any (names w.1) } } ∧
    seen after.2 = (namedIds entries).filterMap (l.pending.settlementBy? entries) ∧
    (∀ id c, l.pending.caller? id = some c →
      match entries.find? (names id) with
      | some e => after.1.pending.caller? id = none ∧ .settle ⟨c, entryOutcome e⟩ ∈ seen after.2
      | none => after.1.pending.caller? id = some c) ∧
    ((∀ e ∈ entries, ∃ why, e = .error (.invalidEnvelope why)) →
      after.1 = l ∧ seen after.2 = []) := by
  intro entries after
  obtain ⟨hp, hs⟩ := settleEntries_named l.pending entries
  have hl : after.1 = { l with pending := l.pending.unnamed entries } := by rw [← hp]; rfl
  have hseen : seen after.2 = (namedIds entries).filterMap (l.pending.settlementBy? entries) := by
    rw [← hs]
    simp only [after, onMessage, seen_append, seen_verbosely, List.nil_append, entries]
  refine ⟨hl, hseen, fun id c hc => ?_, fun hfaults => ?_⟩
  · rw [hl, hseen]
    simp only [l.pending.caller?_unnamed]
    cases hfind : entries.find? (names id) with
    | none =>
      have hany : entries.any (names id) = false := by
        simpa using List.find?_eq_none.mp hfind
      rw [hany]
      exact hc
    | some e =>
      have hany : entries.any (names id) = true :=
        List.any_eq_true.mpr ⟨e, List.mem_of_find?_eq_some hfind, List.find?_some hfind⟩
      rw [hany]
      exact ⟨rfl, Pending.settlement_mem hc hfind⟩
  · have hnone : ∀ id, entries.any (names id) = false := fun _ => any_names_invalid hfaults
    rw [hl, hseen, namedIds_eq_nil hnone, l.pending.unnamed_eq_self hnone]
    exact ⟨rfl, rfl⟩

end Switchboard.Link
