import Mathlib.Data.List.DropRight
import Mathlib.Data.List.Nodup
import Switchboard.Link.Desk
import Switchboard.Proofs.Link.Told

/-!
A desk told from the queries put to it alone, oldest first. Every answer, every piece of news and
the books of the calls are functions of that history. A visit is decided by the first query behind
its registration that bears on its id, whoever is still there to hear of it.
-/

namespace Switchboard.Link.Desk

open Message (Id)

variable {qs : List Query} {q : Query} {d : Desk} {v : Visit}

/-! ### Histories -/

def step (s : Desk × List News) (q : Query) : Desk × List News :=
  ((s.1.ask q).2.1, s.2 ++ (s.1.ask q).2.2)

def run (qs : List Query) : Desk × List News := qs.foldl step ({}, [])

def Query.name? : Query → Option String
  | .register name => some name
  | _ => none

def Query.isReset : Query → Bool
  | .reset => true
  | _ => false

def Query.isAbandon : Query → Bool
  | .abandon _ => true
  | _ => false

def Query.dismisses (name : String) : Query → Bool
  | .abandon name' => name' == name
  | _ => false

/-- What a query decides for the call that waits under an id: its outcome, or that there will be
none. -/
def Query.decides (id : Id) : Query → Option (Option Outcome)
  | .resolve id' result => if id' = id then some (some (.ok result)) else none
  | .reject id' failure => if id' = id then some (some (.error failure)) else none
  | .rejectAll failure => some (some (.error failure))
  | .reset => some none
  | _ => none

def arrivals (qs : List Query) : Nat := qs.countP (·.name?.isSome)

def given (qs : List Query) : Nat := (qs.rtakeWhile (!·.isReset)).countP (·.name?.isSome)

/-- A registered call: its visitor, its id and the queries behind its registration. -/
structure Visit where
  visitor : Visitor
  id : Id
  later : List Query

def Query.visit? (q : Query) (past later : List Query) : Option Visit :=
  q.name?.map fun name => ⟨⟨arrivals past, name⟩, given past + 1, later⟩

def visitsAfter (past : List Query) : List Query → List Visit
  | [] => []
  | q :: later => (q.visit? past later).toList ++ visitsAfter (past ++ [q]) later

def visits (qs : List Query) : List Visit := visitsAfter [] qs

namespace Visit

/-- Whether no reset came behind the registration. -/
def isCurrent (v : Visit) : Bool := v.later.all (!·.isReset)

/-- What the first query that bears on the visit decides. -/
def decision (v : Visit) : Option (Option Outcome) := v.later.findSome? (·.decides v.id)

/-- Whether a query ends the wait of the visitor, who then leaves with or without news. -/
def isEndedBy (v : Visit) (q : Query) : Bool :=
  q.dismisses v.visitor.name || (q.decides v.id).isSome

def isWaiting (v : Visit) : Bool := !v.later.any v.isEndedBy

def hears (q : Query) (v : Visit) : Option News :=
  (q.decides v.id).map fun outcome => ⟨v.visitor.name, outcome⟩

/-- What the visitor ever hears: what the query that ends its wait decides. -/
def told (v : Visit) : Option News := (v.later.find? v.isEndedBy).bind (v.hears ·)

def onward (q : Query) (v : Visit) : Visit := { v with later := v.later ++ [q] }

end Visit

def undecided (qs : List Query) : List Visit := (visits qs).filter (·.decision.isNone)

def attended (qs : List Query) : List Visit := (visits qs).filter (·.isWaiting)

/-- The answer to a query, told from the history before it. -/
def answerTo (qs : List Query) : Query → Answer
  | .register _ => .id (given qs + 1)
  | .abandon name => .count ((attended qs).countP (·.visitor.name == name))
  | .resolve id _ | .reject id _ | .contains id => .truth ((undecided qs).any (·.id == id))
  | .rejectAll _ => .count (undecided qs).length
  | .reset => .done

/-! ### One more query -/

theorem run_concat (qs : List Query) (q : Query) : run (qs ++ [q]) = step (run qs) q :=
  List.foldl_concat ..

theorem arrivals_concat (qs : List Query) (q : Query) :
    arrivals (qs ++ [q]) = arrivals qs + q.name?.toList.length := by
  unfold arrivals
  rw [List.countP_append, List.countP_singleton]
  cases q.name? <;> rfl

theorem given_concat (qs : List Query) (q : Query) :
    given (qs ++ [q]) = if q.isReset then 0 else given qs + q.name?.toList.length := by
  unfold given
  rw [List.rtakeWhile_concat]
  cases q.isReset with
  | true => rfl
  | false =>
    simp only [Bool.not_false, ↓reduceIte, List.countP_append, List.countP_singleton,
      Bool.false_eq_true]
    cases q.name? <;> rfl

theorem Query.visit?_onward (r : Query) (past later : List Query) (q : Query) :
    r.visit? past (later ++ [q]) = (r.visit? past later).map (·.onward q) := by
  unfold Query.visit?
  cases r.name? <;> rfl

theorem visitsAfter_concat (past qs : List Query) (q : Query) :
    visitsAfter past (qs ++ [q]) =
      (visitsAfter past qs).map (·.onward q) ++ (q.visit? (past ++ qs) []).toList := by
  induction qs generalizing past with
  | nil => simp [visitsAfter]
  | cons r rs ih =>
    simp only [List.cons_append, visitsAfter, ih, r.visit?_onward, List.map_append,
      List.append_assoc, List.nil_append]
    cases r.visit? past rs <;> rfl

/-- One more query is behind every visit so far, and may begin one. -/
theorem visits_concat (qs : List Query) (q : Query) :
    visits (qs ++ [q]) = (visits qs).map (·.onward q) ++ (q.visit? qs []).toList :=
  visitsAfter_concat [] qs q

theorem map_onward {f : Visit → α} (h : ∀ v, f (v.onward q) = f v) (vs : List Visit) :
    (vs.map (·.onward q)).map f = vs.map f := by
  rw [List.map_map]
  exact List.map_congr_left fun v _ => h v

/-- A decision stands. A visit without one may get it from one more query. -/
theorem Visit.decision_onward (q : Query) (v : Visit) :
    (v.onward q).decision = v.decision.or (q.decides v.id) := by
  unfold decision onward
  rw [List.findSome?_append]
  simp

theorem Visit.isWaiting_onward (q : Query) (v : Visit) :
    (v.onward q).isWaiting = (!v.isEndedBy q && v.isWaiting) := by
  have he : (v.onward q).isEndedBy = v.isEndedBy := rfl
  unfold isWaiting
  rw [he, onward, List.any_append]
  simp [Bool.and_comm]

theorem Visit.isCurrent_onward (q : Query) (v : Visit) :
    (v.onward q).isCurrent = (v.isCurrent && !q.isReset) := by
  simp [isCurrent, onward]

/-- A visitor hears of one more query only if it waits until then. -/
theorem Visit.told_onward (q : Query) (v : Visit) :
    (v.onward q).told = v.told.or (if v.isWaiting then v.hears q else none) := by
  have he : (v.onward q).isEndedBy = v.isEndedBy := rfl
  unfold told isWaiting
  rw [he, onward, List.find?_append]
  cases hf : v.later.find? v.isEndedBy with
  | some r =>
    have hany : v.later.any v.isEndedBy = true :=
      List.any_eq_true.mpr ⟨r, List.mem_of_find?_eq_some hf, List.find?_some hf⟩
    simp [hany, hears]
  | none =>
    have hany : v.later.any v.isEndedBy = false := by simpa using hf
    rw [hany]
    cases hq : v.isEndedBy q with
    | true => simp [hq, hears]
    | false =>
      have hd : q.decides v.id = none := by
        simpa using (Bool.or_eq_false_iff.mp hq).2
      simp [hq, hears, hd]

theorem Query.begun (q : Query) (past : List Query) {p : Visit → Bool}
    (h : ∀ visitor id, p ⟨visitor, id, []⟩ = true) :
    (q.visit? past []).toList.filter p = (q.visit? past []).toList := by
  unfold Query.visit?
  cases q.name? with
  | none => rfl
  | some name => simp [h]

/-- A part of the visits after one more query: those of the part that the query leaves in it, and
a visit it begins. -/
theorem filter_visits_concat {p : Visit → Bool} (hnew : ∀ visitor id, p ⟨visitor, id, []⟩ = true)
    {kept : Visit → Bool} (h : ∀ v, p (v.onward q) = (kept v && p v)) (qs : List Query) :
    (visits (qs ++ [q])).filter p =
      (((visits qs).filter p).filter kept).map (·.onward q) ++ (q.visit? qs []).toList := by
  have hp : p ∘ Visit.onward q = fun v => kept v && p v := funext h
  rw [visits_concat, List.filter_append, q.begun _ hnew, List.filter_map, List.filter_filter, hp]

/-- One more query decides some of the undecided visits, and may begin one. -/
theorem undecided_concat (qs : List Query) (q : Query) :
    undecided (qs ++ [q]) =
      ((undecided qs).filter fun v => (q.decides v.id).isNone).map (·.onward q) ++
        (q.visit? qs []).toList := by
  refine filter_visits_concat (fun _ _ => rfl) (fun v => ?_) qs
  rw [v.decision_onward]
  cases v.decision <;> simp

/-- One more query ends the wait of some visitors, and one may come. -/
theorem attended_concat (qs : List Query) (q : Query) :
    attended (qs ++ [q]) =
      ((attended qs).filter fun v => !v.isEndedBy q).map (·.onward q) ++
        (q.visit? qs []).toList :=
  filter_visits_concat (fun _ _ => rfl) (·.isWaiting_onward q) qs

theorem current_concat (qs : List Query) (q : Query) :
    (visits (qs ++ [q])).filter (·.isCurrent) =
      (((visits qs).filter (·.isCurrent)).filter fun _ => !q.isReset).map (·.onward q) ++
        (q.visit? qs []).toList := by
  refine filter_visits_concat (fun _ _ => rfl) (fun v => ?_) qs
  rw [v.isCurrent_onward, Bool.and_comm]

/-! ### The order of the visits -/

/-- Callers are counted in the order of their visits. -/
theorem callers_visits (qs : List Query) :
    (visits qs).map (·.visitor.caller) = List.range (arrivals qs) := by
  induction qs using List.reverseRecOn with
  | nil => rfl
  | append_singleton qs q ih =>
    rw [visits_concat, arrivals_concat, List.map_append, map_onward fun _ => rfl, ih]
    unfold Query.visit?
    cases q.name? with
    | none => simp
    | some name => simp [List.range_succ]

/-- The ids given out since the last reset count up from one. -/
theorem ids_visits (qs : List Query) :
    ((visits qs).filter (·.isCurrent)).map (·.id) = List.range' 1 (given qs) := by
  induction qs using List.reverseRecOn with
  | nil => rfl
  | append_singleton qs q ih =>
    rw [current_concat, given_concat, List.map_append, map_onward fun _ => rfl]
    unfold Query.visit?
    cases q with
    | reset => simp [Query.isReset, Query.name?]
    | register name =>
      simp [Query.isReset, Query.name?, ih, List.range'_1_concat, Nat.add_comm 1]
    | _ => simp [Query.isReset, Query.name?, ih]

/-- A reset decides every visit before it, so an undecided one is current. -/
theorem Visit.isCurrent_of_undecided (h : v.decision = none) : v.isCurrent = true := by
  refine List.all_eq_true.mpr fun q hq => ?_
  have hd : q.decides v.id = none := List.findSome?_eq_none_iff.mp h q hq
  cases q with
  | reset => cases hd
  | _ => rfl

theorem Visit.undecided_of_waiting (h : v.isWaiting = true) : v.decision = none := by
  refine List.findSome?_eq_none_iff.mpr fun q hq => ?_
  have he : v.isEndedBy q = false := by
    have hl : v.later.any v.isEndedBy = false := by simpa [isWaiting] using h
    simpa using List.any_eq_false.mp hl q hq
  simpa using (Bool.or_eq_false_iff.mp he).2

/-- The ids that wait have been given out since the last reset. -/
theorem undecided_sublist (qs : List Query) :
    ((undecided qs).map (·.id)).Sublist (List.range' 1 (given qs)) := by
  rw [← ids_visits]
  refine List.Sublist.map _ ?_
  refine List.monotone_filter_right _ fun v hv => v.isCurrent_of_undecided ?_
  simpa using hv

theorem attended_undecided {qs : List Query} (hv : v ∈ attended qs) : v ∈ undecided qs := by
  obtain ⟨hm, hw⟩ := List.mem_filter.mp hv
  exact List.mem_filter.mpr ⟨hm, by simp [Visit.undecided_of_waiting hw]⟩

/-- No two visits have one caller. -/
theorem visit_of_caller {u : Visit} (hu : u ∈ undecided qs) (hv : v ∈ undecided qs)
    (h : u.visitor.caller = v.visitor.caller) : u = v := by
  have hn : ((visits qs).map (·.visitor.caller)).Nodup := by
    rw [callers_visits]
    exact List.nodup_range
  exact List.inj_on_of_nodup_map hn (List.mem_of_mem_filter hu) (List.mem_of_mem_filter hv) h

/-! ### The desk and its history -/

theorem news_one (v : Visitor) (c : Caller) (outcome : Outcome) :
    v.news [⟨c, outcome⟩] [] = if c = v.caller then some ⟨v.name, some outcome⟩ else none := by
  unfold Visitor.news
  by_cases hc : c = v.caller <;> simp [hc]

theorem news_settled {v : Visitor} {cs : List Caller} (hv : v.caller ∈ cs) (outcome : Outcome) :
    v.news (cs.map fun c => ⟨c, outcome⟩) [] = some ⟨v.name, some outcome⟩ := by
  unfold Visitor.news
  have hp : ((fun s : Settlement => s.caller == v.caller) ∘ fun c => ⟨c, outcome⟩) =
      (· == v.caller) := rfl
  rw [List.find?_map, hp]
  cases hf : cs.find? (· == v.caller) with
  | some c => rfl
  | none => exact absurd (beq_self_eq_true _) (List.find?_eq_none.mp hf _ hv)

theorem news_forgotten {v : Visitor} {cs : List Caller} (hv : v.caller ∈ cs) :
    v.news [] cs = some ⟨v.name, none⟩ := by
  unfold Visitor.news
  simp [hv]

/-- What the history says of a desk. -/
structure Follows (qs : List Query) (d : Desk) : Prop where
  come : d.come = arrivals qs
  last : d.pending.last = given qs
  waiting : d.pending.waiting = (undecided qs).map fun v => (v.id, v.visitor.caller)
  visitors : d.visitors = (attended qs).map (·.visitor)

theorem Follows.sound (h : Follows qs d) : d.pending.Sound := by
  have hs := undecided_sublist qs
  constructor
  · rw [h.waiting, List.pairwise_map]
    exact List.pairwise_map.mp ((List.pairwise_lt_range' 1).sublist hs)
  · intro w hw
    rw [h.waiting] at hw
    obtain ⟨v, hv, rfl⟩ := List.mem_map.mp hw
    have hm := List.mem_range'_1.mp (hs.subset (List.mem_map_of_mem hv))
    rw [h.last]
    rw [Nat.add_comm] at hm
    exact ⟨hm.1, Nat.le_of_lt_succ hm.2⟩

/-- The caller found under an id is that of the undecided visit with the id. -/
theorem Follows.caller?_iff (h : Follows qs d) (hv : v ∈ undecided qs) {id : Id} :
    d.pending.caller? id = some v.visitor.caller ↔ id = v.id := by
  rw [h.sound.caller?_iff, h.waiting]
  constructor
  · intro hm
    obtain ⟨u, hu, he⟩ := List.mem_map.mp hm
    obtain ⟨rfl, hc⟩ := Prod.mk.injEq .. ▸ he
    rw [visit_of_caller hu hv hc]
  · rintro rfl
    exact List.mem_map_of_mem hv

/-- The books of the calls after one more query. -/
theorem recorded_concat (qs : List Query) (q : Query) :
    (undecided (qs ++ [q])).map (fun v => (v.id, v.visitor.caller)) =
      ((undecided qs).map fun v => (v.id, v.visitor.caller)).filter
          (fun w => (q.decides w.1).isNone) ++
        (q.visit? qs []).toList.map fun v => (v.id, v.visitor.caller) := by
  rw [undecided_concat, List.map_append, map_onward fun _ => rfl, List.filter_map]
  rfl

/-- A query that decides nothing strikes out no call. -/
theorem Follows.recorded_idle (h : Follows qs d) (hq : ∀ id, q.decides id = none) :
    (undecided (qs ++ [q])).map (fun v => (v.id, v.visitor.caller)) =
      d.pending.waiting ++ (q.visit? qs []).toList.map fun v => (v.id, v.visitor.caller) := by
  rw [recorded_concat, ← h.waiting, List.filter_eq_self.mpr]
  exact fun w _ => by rw [hq]; rfl

theorem attended_idle (hq : ∀ v : Visit, v.isEndedBy q = false) (qs : List Query) :
    (attended (qs ++ [q])).map (·.visitor) =
      (attended qs).map (·.visitor) ++ (q.visit? qs []).toList.map (·.visitor) := by
  rw [attended_concat, List.filter_eq_self.mpr, List.map_append, map_onward fun _ => rfl]
  exact fun v _ => by rw [hq]; rfl

theorem Follows.caller_mem (h : Follows qs d) (hv : v ∈ undecided qs) :
    v.visitor.caller ∈ d.pending.waiting.map (·.2) := by
  rw [h.waiting, List.map_map]
  exact List.mem_map_of_mem hv

/-- A registration begins a visit under the next id. -/
theorem Follows.register (h : Follows qs d) (name : String) :
    Follows (qs ++ [.register name]) (d.ask (.register name)).2.1 := by
  constructor
  · rw [arrivals_concat, ← h.come]
    rfl
  · rw [given_concat, if_neg nofun, ← h.last]
    rfl
  · rw [h.recorded_idle fun _ => rfl]
    change _ ++ [(d.pending.last + 1, d.come)] = _
    rw [h.last, h.come]
    rfl
  · rw [attended_idle fun _ => rfl, ← h.visitors]
    change _ ++ [(⟨d.come, name⟩ : Visitor)] = _
    rw [h.come]
    rfl

/-- Visitors who leave change nothing of the calls. -/
theorem Follows.abandon (h : Follows qs d) (name : String) :
    Follows (qs ++ [.abandon name]) (d.ask (.abandon name)).2.1 := by
  constructor
  · rw [arrivals_concat]
    exact h.come
  · rw [given_concat, if_neg nofun]
    exact h.last
  · rw [h.recorded_idle fun _ => rfl]
    exact (List.append_nil _).symm
  · rw [attended_concat, List.map_append, map_onward fun _ => rfl]
    change (d.visitors.partition (·.name == name)).2 = _
    have hstay : ∀ v : Visit, (!(v.visitor.name == name)) = !v.isEndedBy (.abandon name) := by
      intro v
      simp [Visit.isEndedBy, Query.dismisses, Query.decides, Bool.beq_comm]
    simp only [List.partition_eq_filter_filter, h.visitors, List.filter_map, ← hstay]
    exact (List.append_nil _).symm

theorem Follows.contains (h : Follows qs d) (id : Id) : Follows (qs ++ [.contains id]) d := by
  constructor
  · rw [arrivals_concat]
    exact h.come
  · rw [given_concat, if_neg nofun]
    exact h.last
  · rw [h.recorded_idle fun _ => rfl]
    exact (List.append_nil _).symm
  · rw [attended_idle fun _ => rfl, ← h.visitors]
    exact (List.append_nil _).symm

theorem Follows.abandon_count (h : Follows qs d) (name : String) :
    (d.ask (.abandon name)).1 = answerTo qs (.abandon name) := by
  change Answer.count (d.visitors.partition (·.name == name)).1.length = _
  rw [List.partition_eq_filter_filter, h.visitors, List.filter_map, List.length_map,
    ← List.countP_eq_length_filter]
  rfl

/-- The calls decided by a query are settled or forgotten, and their visitors hear of it. -/
theorem Follows.tell (h : Follows qs d) (p : Pending) (settled : List Settlement)
    (forgotten : List Caller) (hname : q.name? = none) (hd : ∀ name, q.dismisses name = false)
    (hl : p.last = given (qs ++ [q]))
    (hw : p.waiting = d.pending.waiting.filter fun w => (q.decides w.1).isNone)
    (hn : ∀ v ∈ undecided qs, v.visitor.news settled forgotten = v.hears q) :
    Follows (qs ++ [q]) (d.tell p settled forgotten).1 ∧
      (d.tell p settled forgotten).2 = (attended qs).filterMap (·.hears q) := by
  have hbegun : (q.visit? qs []).toList = [] := by
    unfold Query.visit?
    rw [hname]
    rfl
  have hnews : ∀ v ∈ attended qs, v.visitor.news settled forgotten = v.hears q :=
    fun v hv => hn v (attended_undecided hv)
  refine ⟨⟨?_, hl, ?_, ?_⟩, ?_⟩
  · rw [arrivals_concat, hname]
    exact h.come
  · rw [recorded_concat, hbegun, ← h.waiting]
    exact hw.trans (List.append_nil _).symm
  · rw [attended_concat, hbegun, List.append_nil, map_onward fun _ => rfl]
    change d.visitors.filter (fun v => (v.news settled forgotten).isNone) = _
    rw [h.visitors, List.filter_map]
    congr 1
    refine List.filter_congr fun v hv => ?_
    simp [hnews v hv, Visit.hears, Visit.isEndedBy, hd]
  · change d.visitors.filterMap (Visitor.news settled forgotten) = _
    rw [h.visitors, List.filterMap_map]
    exact List.filterMap_congr hnews

/-- Whether a call waits under an id. -/
theorem Follows.awaits (h : Follows qs d) (id : Id) :
    (d.pending.caller? id).isSome = (undecided qs).any (·.id == id) := by
  rw [Bool.eq_iff_iff, Option.isSome_iff_exists, List.any_eq_true]
  constructor
  · rintro ⟨c, hc⟩
    rw [h.sound.caller?_iff, h.waiting] at hc
    obtain ⟨v, hv, he⟩ := List.mem_map.mp hc
    obtain ⟨rfl, -⟩ := Prod.mk.injEq .. ▸ he
    exact ⟨v, hv, beq_self_eq_true _⟩
  · rintro ⟨v, hv, he⟩
    exact ⟨v.visitor.caller, (h.caller?_iff hv).mpr (beq_iff_eq.mp he).symm⟩

/-- Settling one id decides the visit with it, if there is one, and says whether there was. -/
theorem Follows.settle (h : Follows qs d) {id : Id} {outcome : Outcome}
    (hq : ∀ id', q.decides id' = if id = id' then some (some outcome) else none)
    (hname : q.name? = none) (hd : ∀ name, q.dismisses name = false) (hr : q.isReset = false) :
    (d.settle id outcome).1 = .truth ((undecided qs).any (·.id == id)) ∧
      Follows (qs ++ [q]) (d.settle id outcome).2.1 ∧
      (d.settle id outcome).2.2 = (attended qs).filterMap (·.hears q) := by
  have ht := h.tell (d.pending.settle id outcome).1 (d.pending.settle id outcome).2 [] hname hd
    ?_ ?_ ?_
  · refine ⟨?_, ht⟩
    change Answer.truth (!(d.pending.settle id outcome).2.isEmpty) = _
    rw [← h.awaits, d.pending.settle_snd]
    cases d.pending.caller? id <;> rfl
  · rw [given_concat, hr, hname, d.pending.settle_fst]
    exact h.last
  · rw [d.pending.settle_fst]
    refine List.filter_congr fun w _ => ?_
    rw [hq]
    by_cases hw : id = w.1
    · simp [hw]
    · simp [hw, Ne.symm hw]
  · intro v hv
    unfold Visit.hears
    rw [d.pending.settle_snd, hq]
    -- The one who waits under the id is this visitor just if the visit has that id.
    cases hc : d.pending.caller? id with
    | none =>
      have hid : id ≠ v.id := by
        intro hid
        rw [(h.caller?_iff hv).mpr hid] at hc
        cases hc
      rw [if_neg hid]
      rfl
    | some c =>
      have hid : id = v.id ↔ c = v.visitor.caller := by
        rw [← h.caller?_iff hv, hc, Option.some.injEq]
      simp only [Option.map_some, Option.toList_some, news_one, ← hid]
      split <;> rfl

/-- Rejecting all calls decides every visit, and says how many there were. -/
theorem Follows.rejectAll (h : Follows qs d) (failure : Failure) :
    (d.ask (.rejectAll failure)).1 = .count (undecided qs).length ∧
      Follows (qs ++ [.rejectAll failure]) (d.ask (.rejectAll failure)).2.1 ∧
      (d.ask (.rejectAll failure)).2.2 =
        (attended qs).filterMap (·.hears (.rejectAll failure)) := by
  have ht := h.tell (q := .rejectAll failure) (d.pending.settleAll (.error failure)).1
    (d.pending.settleAll (.error failure)).2 [] rfl (fun _ => rfl) ?_ ?_ ?_
  · refine ⟨?_, ht⟩
    change Answer.count (d.pending.waiting.map _).length = _
    rw [List.length_map, h.waiting, List.length_map]
  · rw [given_concat, if_neg nofun]
    exact h.last
  · exact (List.filter_false _).symm
  · intro v hv
    have hs : (d.pending.settleAll (.error failure)).2 =
        (d.pending.waiting.map (·.2)).map fun c => ⟨c, .error failure⟩ := by
      rw [List.map_map]
      rfl
    rw [hs, news_settled (h.caller_mem hv)]
    rfl

/-- A reset lets everybody go without an outcome and counts anew. -/
theorem Follows.reset (h : Follows qs d) :
    Follows (qs ++ [.reset]) (d.ask .reset).2.1 ∧
      (d.ask .reset).2.2 = (attended qs).filterMap (·.hears .reset) := by
  refine h.tell (q := .reset) {} [] _ rfl (fun _ => rfl) ?_ ?_ ?_
  · rw [given_concat]
    rfl
  · exact (List.filter_false _).symm
  · intro v hv
    exact news_forgotten (h.caller_mem hv)

/-- One query at a desk that follows its history. -/
theorem Follows.ask (h : Follows qs d) (q : Query) :
    (d.ask q).1 = answerTo qs q ∧ Follows (qs ++ [q]) (d.ask q).2.1 ∧
      (d.ask q).2.2 = (attended qs).filterMap (·.hears q) := by
  cases q with
  | register name =>
    refine ⟨?_, h.register name, (List.filterMap_none ..).symm⟩
    change Answer.id (d.pending.last + 1) = _
    rw [h.last]
    rfl
  | abandon name =>
    exact ⟨h.abandon_count name, h.abandon name, (List.filterMap_none ..).symm⟩
  | resolve id result => exact h.settle (fun _ => rfl) rfl (fun _ => rfl) rfl
  | reject id failure => exact h.settle (fun _ => rfl) rfl (fun _ => rfl) rfl
  | rejectAll failure => exact h.rejectAll failure
  | reset => exact ⟨rfl, h.reset⟩
  | contains id =>
    refine ⟨?_, h.contains id, (List.filterMap_none ..).symm⟩
    change Answer.truth _ = _
    rw [h.awaits]
    rfl

/-- A desk follows its history, query by query. -/
theorem run_follows (qs : List Query) : Follows qs (run qs).1 := by
  induction qs using List.reverseRecOn with
  | nil => exact ⟨rfl, rfl, rfl, rfl⟩
  | append_singleton qs q ih =>
    rw [run_concat]
    exact (ih.ask q).2.1

/-! ### What visitors ever hear -/

theorem perm_filterMap_or {f g : α → Option β} {as : List α}
    (h : ∀ a ∈ as, f a = none ∨ g a = none) :
    (as.filterMap fun a => (f a).or (g a)).Perm (as.filterMap f ++ as.filterMap g) := by
  induction as with
  | nil => exact .nil
  | cons a as ih =>
    have ih := ih fun b hb => h b (List.mem_cons_of_mem a hb)
    simp only [List.filterMap_cons]
    rcases h a List.mem_cons_self with hf | hg
    · rw [hf]
      cases g a with
      | none => exact ih
      | some b => exact (ih.cons b).trans List.perm_middle.symm
    · rw [hg]
      cases f a with
      | none => exact ih
      | some b => exact ih.cons b

theorem Visit.told_of_waiting (h : v.isWaiting = true) : v.told = none := by
  have hl : v.later.find? v.isEndedBy = none := by simpa [isWaiting] using h
  rw [told, hl]
  rfl

theorem attended_hear (qs : List Query) (q : Query) :
    (attended qs).filterMap (·.hears q) =
      (visits qs).filterMap fun v => if v.isWaiting then v.hears q else none :=
  List.filterMap_filter ..

/-- All the news a desk ever brings: what each visit is told, once at most. -/
theorem news_told (qs : List Query) : (run qs).2.Perm ((visits qs).filterMap Visit.told) := by
  induction qs using List.reverseRecOn with
  | nil => exact .nil
  | append_singleton qs q ih =>
    have hnew : (q.visit? qs []).toList.filterMap Visit.told = [] := by
      unfold Query.visit?
      cases q.name? <;> rfl
    have honce : ∀ v ∈ visits qs,
        v.told = none ∨ (if v.isWaiting then v.hears q else none) = none := by
      intro v _
      cases hw : v.isWaiting with
      | true => exact .inl (v.told_of_waiting hw)
      | false => exact .inr rfl
    rw [run_concat, visits_concat, List.filterMap_append, hnew, List.append_nil,
      List.filterMap_map]
    change ((run qs).2 ++ ((run qs).1.ask q).2.2).Perm
      ((visits qs).filterMap fun v => (v.onward q).told)
    rw [((run_follows qs).ask q).2.2, attended_hear]
    simp only [Visit.told_onward]
    exact (ih.append_right _).trans (perm_filterMap_or honce).symm

/-! ### Visitors who leave -/

/-- Two desks with the same calls give the same answers and go on having the same calls, whoever
sits there. -/
theorem ask_congr {d d' : Desk} (hp : d.pending = d'.pending) (hc : d.come = d'.come)
    (q : Query) :
    (q.isAbandon ∨ (d.ask q).1 = (d'.ask q).1) ∧
      (d.ask q).2.1.pending = (d'.ask q).2.1.pending ∧
      (d.ask q).2.1.come = (d'.ask q).2.1.come := by
  obtain ⟨p, vs, c⟩ := d
  obtain ⟨p', vs', c'⟩ := d'
  obtain rfl : p = p' := hp
  obtain rfl : c = c' := hc
  cases q with
  | abandon name => exact ⟨.inl rfl, rfl, rfl⟩
  | _ => exact ⟨.inr rfl, rfl, rfl⟩

theorem abandon_pending (d : Desk) {q : Query} (hq : q.isAbandon = true) :
    (d.ask q).2.1.pending = d.pending ∧ (d.ask q).2.1.come = d.come := by
  cases q with
  | abandon name => exact ⟨rfl, rfl⟩
  | _ => cases hq

/-- The calls are the same had nobody left. -/
theorem run_staying (qs : List Query) :
    (run (qs.filter (!·.isAbandon))).1.pending = (run qs).1.pending ∧
      (run (qs.filter (!·.isAbandon))).1.come = (run qs).1.come := by
  induction qs using List.reverseRecOn with
  | nil => exact ⟨rfl, rfl⟩
  | append_singleton qs q ih =>
    rw [List.filter_append, run_concat]
    cases hq : q.isAbandon with
    | true =>
      obtain ⟨hp, hc⟩ := abandon_pending (run qs).1 hq
      simp only [List.filter_cons, hq, Bool.not_true, Bool.false_eq_true, ↓reduceIte,
        List.filter_nil, List.append_nil]
      exact ⟨ih.1.trans hp.symm, ih.2.trans hc.symm⟩
    | false =>
      simp only [List.filter_cons, hq, Bool.not_false, ↓reduceIte, List.filter_nil, run_concat]
      exact (ask_congr ih.1 ih.2 q).2

/-- A desk against its history. Its answers, the news of one query and of all so far, the ids since
the last reset and the books of the calls are those the history gives; and the books and the
answers are the same had nobody ever left. -/
theorem desk_follows_history (qs : List Query) (q : Query) :
    let d := (run qs).1
    (d.ask q).1 = answerTo qs q ∧
    (d.ask q).2.2 = (attended qs).filterMap (·.hears q) ∧
    (run qs).2.Perm ((visits qs).filterMap Visit.told) ∧
    ((visits qs).filter (·.isCurrent)).map (·.id) = List.range' 1 (given qs) ∧
    d.pending.next = given qs + 1 ∧
    d.pending.waiting = (undecided qs).map (fun v => (v.id, v.visitor.caller)) ∧
    d.pending.size = (undecided qs).length ∧
    let stayed := (run (qs.filter (!·.isAbandon))).1
    stayed.pending = d.pending ∧ (q.isAbandon ∨ (stayed.ask q).1 = (d.ask q).1) := by
  intro d
  have h : Follows qs d := run_follows qs
  obtain ⟨hp, hc⟩ := run_staying qs
  obtain ⟨hanswer, -, hnews⟩ := h.ask q
  refine ⟨hanswer, hnews, news_told qs, ids_visits qs, ?_, h.waiting, ?_, hp,
    (ask_congr hp hc q).1⟩
  · rw [Pending.next, h.last]
  · rw [Pending.size, h.waiting, List.length_map]

end Switchboard.Link.Desk
