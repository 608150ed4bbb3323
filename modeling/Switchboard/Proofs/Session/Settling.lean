import Switchboard.Proofs.Session.Lodged

namespace Switchboard.Session

open Link (Caller Effect Input Moment)

variable {d : Call} {k : Continuation} {n : Node} {i : Input} {s s' : Session} {c : Change}
  {l : LinkIndex} {outcome : Link.Outcome}

/-- What holds of a session whatever its links do and whatever becomes of what came to them. -/
structure Robust (P : Session → Prop) : Prop where
  setNode : ∀ k f s, P s → P (s.setNode k f)
  perform : ∀ k e s, P s → P (perform k e s).1

section Robust

variable {P : Session → Prop}

/-- What is robust outlasts every reaction of a link. -/
theorem Robust.carryOut (hP : Robust P) (k : LinkIndex) (r : Link.Reaction) (h : P s) :
    P (carryOut k r s).1 :=
  each_induction (fun e _ t ht => hP.perform k e t ht) (hP.setNode k _ s h)

theorem Robust.deliver (hP : Robust P) (k : LinkIndex) (i : Input) (h : P s) :
    P (deliver k i s).1 := by
  unfold Session.deliver
  split
  · exact h
  · exact hP.carryOut k _ h

theorem Robust.drain (hP : Robust P) (k : LinkIndex) (h : P s) : P (drain k s).1 := by
  unfold Session.drain
  split
  · exact h
  · exact each_induction (fun i _ t ht => hP.deliver k i ht) (hP.setNode k _ s h)

theorem Robust.retire (hP : Robust P) (k : LinkIndex) (h : P s) : P (retire k s).1 := by
  unfold Session.retire
  split
  · exact h
  · split
    · exact h
    · exact each_induction (fun e _ t ht => hP.perform k e t ht) (hP.setNode k _ s h)

theorem Robust.ring (hP : Robust P) (k : LinkIndex) (h : P s) : P (ring k s).1 := by
  unfold Session.ring
  split
  · exact h
  · split
    · exact h
    · exact hP.carryOut k _ h

theorem Robust.retireAll (hP : Robust P) (h : P s) : P (retireAll s).1 := by
  unfold Session.retireAll
  exact each_induction (fun k _ t ht => hP.retire k ht) h

theorem Robust.ringAll (hP : Robust P) (h : P s) : P (ringAll s).1 := by
  unfold Session.ringAll
  exact each_induction (fun k _ t ht => hP.ring k ht) h

end Robust

theorem robust_now (now : Nat) : Robust fun s => s.now = now where
  setNode _ _ _ h := h
  perform k e s h := by
    cases e with
    | connect | settle | forget | publish | notify | log => exact h
    | send epoch id text =>
      simp only [perform]
      split
      · exact h
      · split <;> exact h
    | close epoch =>
      simp only [perform]
      split <;> exact h

theorem andThen_append {f : α → Session → Change} (xs ys : List α) (c : Change) :
    c.andThen (each (xs ++ ys) f) = (c.andThen (each xs f)).andThen (each ys f) := by
  rw [← foldl_andThen, List.foldl_append, foldl_andThen, foldl_andThen]

theorem andThen_cons {f : α → Session → Change} (x : α) (xs : List α) (c : Change) :
    c.andThen (each (x :: xs) f) = (c.andThen (f x)).andThen (each xs f) := by
  rw [← foldl_andThen, List.foldl_cons, foldl_andThen]

/-- The turn of one link when all links react. -/
theorem drainAll_turn (hl : l < c.1.nodes.length) :
    ∃ before behind, l ∉ before ∧ l ∉ behind ∧
      c.andThen drainAll =
        ((c.andThen (each before drain)).andThen (drain l)).andThen (each behind drain) := by
  obtain ⟨before, behind, hrange, hbefore⟩ :=
    List.eq_append_cons_of_mem (List.mem_range.mpr hl)
  have hnodup := hrange ▸ List.nodup_range
  have hbehind := (List.nodup_cons.mp (List.nodup_append.mp hnodup).2.1).1
  refine ⟨before, behind, hbefore, hbehind, ?_⟩
  have hall : c.andThen drainAll = c.andThen (each (before ++ l :: behind) drain) := by
    rw [← hrange]
    rfl
  rw [hall, andThen_append, andThen_cons]

theorem each_concat (x : α) (xs : List α) (f : α → Session → Change) (s : Session) :
    (each (xs ++ [x]) f s).1 = (f x (each xs f s).1).1 := by
  rw [each_append, each_cons]
  rfl

def Call.IsFixed (d : Call) : Prop := ∀ outcome, d.settle outcome = d

/-- Settling a caller settles the one call it has. -/
theorem settle_callsOf {d : Call} (h : s.callsOf d.caller = [d]) (outcome : Link.Outcome) :
    (s.settle d.caller outcome).callsOf d.caller = [d.settle outcome] := by
  have hcaller : ∀ c : Call,
      (if c.caller = d.caller then c.settle outcome else c).caller = c.caller := by
    intro c
    split
    · exact c.settle_caller outcome
    · rfl
  have hmap : (s.settle d.caller outcome).callsOf d.caller = _ := callsOf_map hcaller rfl
  rw [hmap, h]
  simp

theorem robust_calls {d : Call} (hfixed : d.IsFixed) :
    Robust fun s => s.callsOf d.caller = [d] where
  setNode _ _ _ h := h
  perform k e s h := by
    have hsettle : ∀ y outcome, (s.settle y outcome).callsOf d.caller = [d] := by
      intro y outcome
      by_cases hy : y = d.caller
      · rw [hy, settle_callsOf h, hfixed]
      · rw [callsOf_settle_ne s hy, h]
    cases he : wakes d.caller e with
    | false => exact (perform_passes he k s).calls.trans h
    | true =>
      cases e with
      | settle t => exact hsettle t.caller t.outcome
      | forget y => exact hsettle y _
      | _ => cases he

theorem perform_woken (k : LinkIndex) (e : Effect) (s : Session) :
    s.woken <+: (perform k e s).1.woken := by
  cases e with
  | settle | forget => exact List.prefix_append _ _
  | connect | publish | notify | log => exact List.prefix_refl _
  | send epoch id text =>
    simp only [perform]
    split
    · exact List.prefix_refl _
    · split <;> exact List.prefix_refl _
  | close epoch =>
    simp only [perform]
    split <;> exact List.prefix_refl _

theorem robust_woken (x : Caller) : Robust fun s => x ∈ s.woken where
  setNode _ _ _ h := h
  perform k e s h := (perform_woken k e s).subset h

/-- A call that its link has settled, and that is yet to go on. -/
structure Settled (d : Call) (s : Session) : Prop where
  calls : s.callsOf d.caller = [d]
  woken : d.caller ∈ s.woken

/-- A settled call stays settled until it has its turn. -/
theorem robust_settled {d : Call} (hfixed : d.IsFixed) : Robust (Settled d) where
  setNode _ _ _ h := ⟨h.calls, h.woken⟩
  perform k e s h :=
    ⟨(robust_calls hfixed).perform k e s h.calls, (robust_woken _).perform k e s h.woken⟩

/-- Effects that tell a caller one outcome settle the call with it. -/
theorem settled_of_told {d : Call} {es : List Effect} {outcome : Link.Outcome}
    (h : s.callsOf d.caller = [d]) (ht : Link.told d.caller es = [outcome])
    (hf : .forget d.caller ∉ es) (hfixed : (d.settle outcome).IsFixed) (k : LinkIndex) :
    Settled (d.settle outcome) (each es (perform k) s).1 := by
  obtain ⟨before, e, behind, rfl, hbefore, he, -⟩ := List.filterMap_eq_cons_iff.mp ht
  have hquiet : ∀ e' ∈ before, wakes d.caller e' = false :=
    wakes_of_told (List.filterMap_eq_nil_iff.mpr hbefore) fun hm =>
      hf (List.mem_append_left _ hm)
  have hpassed := each_perform_passes hquiet k s
  have hsettle : e = .settle ⟨d.caller, outcome⟩ := by
    cases e with
    | settle t =>
      obtain ⟨y, o⟩ := t
      simp only [Link.Effect.outcomeFor, Option.ite_none_right_eq_some, Option.some.injEq] at he
      rw [he.1, he.2]
    | _ => cases he
  subst hsettle
  have hcaller : (d.settle outcome).caller = d.caller := d.settle_caller outcome
  rw [each_append, each_cons, Change.andThen_fst]
  refine each_induction (fun e' _ t ht => (robust_settled hfixed).perform k e' t ht) ⟨?_, ?_⟩
  · rw [hcaller]
    exact settle_callsOf (hpassed.calls.trans h) outcome
  · rw [hcaller]
    exact List.mem_append_right _ (List.mem_singleton_self _)

/-- A call that waits and is to go on. -/
structure Call.Expects (d : Call) (k : Continuation) : Prop where
  goesOn : d.continuation = some k
  waiting : d.progress = .waiting

theorem Call.Expects.isDone (h : d.Expects k) : d.isDone = false := by
  simp [Call.isDone, h.waiting]

theorem Call.Expects.isSome (h : d.Expects k) : d.continuation.isSome = true := by
  simp [h.goesOn]

theorem Call.Expects.due? (h : d.Expects k) : d.due? = none := by
  simp [Call.due?, h.goesOn, h.waiting]

def Call.given (d : Call) (outcome : Link.Outcome) : Call := { d with progress := .settled outcome }

def Call.ended (d : Call) (k : Continuation) (outcome : Link.Outcome) : Call :=
  { d with progress := .done (.answer (k.sequel.answer outcome)) }

theorem Call.given_isFixed (d : Call) (outcome : Link.Outcome) : (d.given outcome).IsFixed :=
  fun _ => rfl

theorem Call.ended_isFixed (d : Call) (outcome : Link.Outcome) : (d.ended k outcome).IsFixed :=
  fun _ => rfl

theorem Call.Expects.settle (h : d.Expects k) (outcome : Link.Outcome) :
    d.settle outcome = d.given outcome := by
  simp only [Call.settle, h.waiting, h.goesOn, Call.given]

/-- The input on which its link tells the caller an outcome. -/
theorem Lodged.settle (h : Lodged d n s) (hd : d.Expects k)
    (htold : Link.told d.caller (n.link.react s.now (.input i)).2 = [outcome]) :
    Settled (d.given outcome) (deliver d.link i s).1 := by
  obtain ⟨actual, hactual, rfl⟩ := h.at
  have hmove := actual.core.link.react_move s.now (.input i)
  have hforget : .forget d.caller ∉ (actual.core.link.react s.now (.input i)).2 := fun hm =>
    hmove.forget_not_mem h.sound d.caller (List.mem_filter.mpr ⟨hm, rfl⟩)
  rw [deliver_node hactual, ← hd.settle]
  refine settled_of_told (s := s.setNode d.link _) h.calls htold hforget ?_ _
  rw [hd.settle]
  exact d.given_isFixed outcome

/-- A call that is settled goes on when it is its turn, and once only. -/
theorem Settled.resumeAll (h : Settled (d.given outcome) s) (hk : d.continuation = some k) :
    (resumeAll s).1.callsOf d.caller = [d.ended k outcome] := by
  obtain ⟨before, behind, hwoken, hbefore⟩ := List.eq_append_cons_of_mem h.woken
  unfold Session.resumeAll
  rw [hwoken, each_append, each_cons, Change.andThen_fst]
  have hothers : (each before resume { s with woken := [] }).1.callsOf d.caller =
      [d.given outcome] := by
    refine each_induction (P := fun t => t.callsOf d.caller = [d.given outcome])
      (fun y hy t ht => (resume_aside fun he => ?_).calls.trans ht) h.calls
    have hm : d.caller ∈ before := he ▸ hy
    exact absurd hm hbefore
  generalize (each before resume { s with woken := [] }).1 = t at hothers
  have hturn : (resume d.caller t).1.callsOf d.caller = [d.ended k outcome] := by
    rw [resume_eq, find?_callsOf, hothers]
    have hmap : (goOn d.caller k outcome t).1.callsOf d.caller = _ :=
      callsOf_map (f := fun c => if c.caller = d.caller then c.ended k outcome else c)
        (fun c => by split <;> rfl) (goOn_calls ..)
    simp only [List.head?_cons, Option.bind_some, Call.due?, Call.given, hk]
    rw [hmap, hothers]
    simp [Call.given, Call.ended]
  refine each_induction (P := fun t => t.callsOf d.caller = [d.ended k outcome])
    (fun y _ t ht => (resume_aside fun _ => ?_).calls.trans ht) hturn
  rw [find?_callsOf, ht]
  simp [Call.due?, Call.ended]

def reacted (s : Session) : Change := ((drainAll s).andThen retireAll).andThen ringAll

/-- A session reacts, goes on with its calls and then stops links, in this order. -/
theorem settleDown_eq (s : Session) :
    settleDown s = ((reacted s).andThen resumeAll).andThen retireAll := by
  simp only [settleDown, reacted, drainAll, retireAll, ringAll, Change.andThen]

theorem Settled.reacted (h : Settled (d.given outcome) (drainAll s).1) :
    Settled (d.given outcome) (Session.reacted s).1 := by
  have hsettled := robust_settled (d.given_isFixed outcome)
  rw [Session.reacted, Change.andThen_fst, Change.andThen_fst]
  exact hsettled.ringAll (hsettled.retireAll h)

/-- A call that is settled when links react has come to its end when the session is idle. -/
theorem Settled.settleDown (h : Settled (d.given outcome) (Session.reacted s).1)
    (hk : d.continuation = some k) :
    (Session.settleDown s).1.callsOf d.caller = [d.ended k outcome] := by
  rw [settleDown_eq, Change.andThen_fst, Change.andThen_fst]
  exact (robust_calls (d.ended_isFixed outcome)).retireAll (h.resumeAll hk)

end Switchboard.Session
