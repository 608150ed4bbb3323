import Switchboard.Proofs.Session.Settling

namespace Switchboard.Session

open Link (Caller Effect Input Moment)

def coming (s : Session) (n : Node) : List (Nat × Moment) :=
  n.inbox.map fun i => (s.now, .input i)

variable {d : Call} {k : Continuation} {n : Node} {s : Session} {c : Change} {i : Input}
  {outcome : Link.Outcome}

theorem Lodged.deliver (h : Lodged d n s)
    (htold : Link.told d.caller (n.link.react s.now (.input i)).2 = []) :
    Lodged d { n with link := (n.link.react s.now (.input i)).1 } (deliver d.link i s).1 := by
  obtain ⟨actual, hactual, rfl⟩ := h.at
  rw [deliver_node hactual]
  exact h.carryOut s.now (fun _ => nofun) htold

/-- A call after its link has reacted to some inputs, by what the caller is told. -/
theorem Lodged.deliverAll (h : Lodged d n s) (hd : d.Expects k) {now : Nat} (hnow : s.now = now)
    (is : List Input) :
    let reaction := n.link.run (is.map fun i => (now, .input i))
    (Link.told d.caller reaction.2 = [] →
      Lodged d { n with link := reaction.1 } (each is (Session.deliver d.link) s).1) ∧
    ∀ outcome, Link.told d.caller reaction.2 = [outcome] →
      Settled (d.given outcome) (each is (Session.deliver d.link) s).1 := by
  induction is generalizing n s with
  | nil => exact ⟨fun _ => h, fun _ htold => by cases htold⟩
  | cons i is ih =>
    have hlater : (Session.deliver d.link i s).1.now = now :=
      (robust_now now).deliver d.link i hnow
    simp only [List.map_cons, Link.run, Link.told_append, each_cons, Change.andThen_fst]
    subst hnow
    have hon := fun htold => ih (h.deliver (i := i) htold) hlater
    refine ⟨fun htold => ?_, fun outcome htold => ?_⟩
    · obtain ⟨hfirst, hrest⟩ := List.append_eq_nil_iff.mp htold
      exact (hon hfirst).1 hrest
    · rcases List.append_eq_singleton_iff.mp htold with ⟨hfirst, hrest⟩ | ⟨hfirst, -⟩
      · exact (hon hfirst).2 outcome hrest
      · exact each_induction (fun j _ t ht =>
          (robust_settled (d.given_isFixed outcome)).deliver d.link j ht) (h.settle hd hfirst)

/-- A call after its link has reacted to all that has come to it. -/
theorem Lodged.drain (h : Lodged d n s) (hd : d.Expects k) :
    let reaction := n.link.run (s.coming n)
    (Link.told d.caller reaction.2 = [] →
      Lodged d { n with link := reaction.1, inbox := [] } (drain d.link s).1) ∧
    ∀ outcome, Link.told d.caller reaction.2 = [outcome] →
      Settled (d.given outcome) (Session.drain d.link s).1 := by
  have hall := h.emptied.deliverAll hd (rfl : s.now = s.now) n.inbox
  obtain ⟨actual, hactual, rfl⟩ := h.at
  have hdrain : Session.drain d.link s =
      each actual.core.inbox (Session.deliver d.link)
        (s.setNode d.link fun n => { n with inbox := [] }) := by
    simp only [Session.drain, hactual]
    rfl
  rw [hdrain]
  exact hall

/-- A call is where it was when other links react first. -/
theorem Lodged.drainOthers (h : Lodged d n s) {ks : List LinkIndex} (hks : d.link ∉ ks) :
    Lodged d n (each ks Session.drain s).1 := by
  refine each_induction (P := Lodged d n) (fun k hk t ht => ?_) h
  have hne : k ≠ d.link := fun he => hks (he ▸ hk)
  exact ((ht.strange k hne).drain ht.balanced).lodged hne ht (ht.balanced.drain k)

theorem drainAll_now (ks : List LinkIndex) (s : Session) : (each ks drain s).1.now = s.now :=
  each_induction (P := fun t => t.now = s.now) (fun k _ _ ht => (robust_now s.now).drain k ht) rfl

/-- A call after all links have reacted. -/
theorem Lodged.drainAll (h : Lodged d n s) (hd : d.Expects k) :
    let reaction := n.link.run (s.coming n)
    (Link.told d.caller reaction.2 = [] →
      Lodged d { n with link := reaction.1, inbox := [] } (drainAll s).1) ∧
    ∀ outcome, Link.told d.caller reaction.2 = [outcome] →
      Settled (d.given outcome) (Session.drainAll s).1 := by
  obtain ⟨before, behind, hbefore, hbehind, hturn⟩ := drainAll_turn (c := (s, [])) h.lt
  have hdrained := congrArg Prod.fst hturn
  simp only [Change.andThen_fst] at hdrained
  have hfound := h.drainOthers hbefore
  have hcoming : (each before Session.drain s).1.coming n = s.coming n := by
    rw [coming, drainAll_now before s, coming]
  obtain ⟨hwaits, hsettled⟩ := hfound.drain hd
  rw [hcoming] at hwaits hsettled
  rw [hdrained]
  refine ⟨fun htold => (hwaits htold).drainOthers hbehind, fun outcome htold => ?_⟩
  exact each_induction (fun j _ _ ht =>
    (robust_settled (d.given_isFixed outcome)).drain j ht) (hsettled outcome htold)

/-- A call that waits holds its link, which does not stop. -/
theorem Lodged.retireAll (h : Lodged d n s) (hd : d.Expects k) :
    Lodged d n (retireAll s).1 := by
  refine each_induction (P := Lodged d n) (fun j _ t ht => ?_) h
  by_cases hj : j = d.link
  · subst hj
    obtain ⟨actual, hactual, -⟩ := ht.at
    have hholds := ht.holds hd.isSome hd.isDone
    have hretire : retire d.link t = (t, []) := by simp [retire, hactual, hholds]
    rw [hretire]
    exact ht
  · exact (ht.strange j hj).retire.lodged hj ht (ht.balanced.retire j)

/-- A link that is not due to connect again does not hear the clock. -/
theorem Lodged.ringAll (h : Lodged d n s) (hdue : n.link.deadline = none) :
    Lodged d n (ringAll s).1 := by
  refine each_induction (P := Lodged d n) (fun j _ t ht => ?_) h
  by_cases hj : j = d.link
  · subst hj
    obtain ⟨actual, hactual, rfl⟩ := ht.at
    have htick : actual.core.link.react t.now .clock = (actual.core.link, []) := by
      simp only [Link.react, Link.tick, hdue]
    cases hstopped : actual.stopped with
    | true =>
      have hring : ring d.link t = (t, []) := by simp [ring, hactual, hstopped]
      rw [hring]
      exact ht
    | false =>
      have hring : ring d.link t =
          Session.carryOut d.link (actual.core.link.react t.now .clock) t := by
        simp only [ring, hactual, hstopped]
        rfl
      have hgoing : actual.core.stopped → Moment.clock ≠ .clock := by
        intro hs
        exact absurd (hs.symm.trans hstopped) (by decide)
      have hrung := ht.carryOut (m := .clock) t.now hgoing (by rw [htick]; rfl)
      rw [← hring, htick] at hrung
      exact hrung
  · exact ((ht.strange j hj).ring ht.balanced).lodged hj ht (ht.balanced.ring j)

/-- A call that waits is passed by when others go on. -/
theorem Lodged.resumeAll (h : Lodged d n s) (hd : d.Expects k) :
    Lodged d n (resumeAll s).1 := by
  unfold Session.resumeAll
  have hawake : Lodged d n { s with woken := [] } :=
    ⟨h.balanced.of_same rfl rfl, h.calls, h.node, h.strange⟩
  refine each_induction (P := Lodged d n) (fun y _ t ht => ?_) hawake
  refine Aside.lodged (resume_aside fun _ => ?_) (Nat.ne_of_gt ht.lt) ht (ht.balanced.resume y)
  rw [find?_callsOf, ht.calls]
  exact hd.due?

/-- A call whose caller is told nothing waits on. -/
theorem Lodged.reacted (h : Lodged d n s) (hd : d.Expects k)
    (htold : Link.told d.caller (n.link.run (s.coming n)).2 = [])
    (hdue : (n.link.run (s.coming n)).1.deadline = none) :
    Lodged d { n with link := (n.link.run (s.coming n)).1, inbox := [] } (reacted s).1 := by
  rw [Session.reacted, Change.andThen_fst, Change.andThen_fst]
  exact (((h.drainAll hd).1 htold).retireAll hd).ringAll hdue

/-- A call whose caller is told an outcome is settled with it. -/
theorem Lodged.settled (h : Lodged d n s) (hd : d.Expects k)
    (htold : Link.told d.caller (n.link.run (s.coming n)).2 = [outcome]) :
    Settled (d.given outcome) (Session.reacted s).1 :=
  ((h.drainAll hd).2 outcome htold).reacted

/-- A call whose caller is told nothing is where it was when the session is idle, and its link has
reacted. -/
theorem Lodged.settleDown (h : Lodged d n s) (hd : d.Expects k)
    (htold : Link.told d.caller (n.link.run (s.coming n)).2 = [])
    (hdue : (n.link.run (s.coming n)).1.deadline = none) :
    Lodged d { n with link := (n.link.run (s.coming n)).1, inbox := [] }
      (settleDown s).1 := by
  rw [settleDown_eq, Change.andThen_fst, Change.andThen_fst]
  exact ((h.reacted hd htold hdue).resumeAll hd).retireAll hd

theorem Lodged.tell (h : Lodged d n s) (hd : d.Expects k) : Lodged d n (tell s).1 := by
  refine ⟨h.balanced.tell, ?_, h.node, h.strange⟩
  rw [callsOf_tell, h.calls]
  simp [hd.isDone]

/-- A step that does not drop a call leaves it where it is. At most it brings something to its link
that is no request of the caller. -/
theorem Lodged.take (h : Lodged d n s) (he : Enrolled s) {st : Step}
    (hst : st.drops? ≠ some d.label) :
    ∃ is, Lodged d { n with inbox := n.inbox ++ is } (s.take st).2.1 ∧
      ∀ i ∈ is, (Moment.input i).caller? ≠ some d.caller := by
  have hb := h.balanced.take st
  have hcalls := callsOf_take he h.calls hst
  have hne : s.callers ≠ d.caller := Nat.ne_of_gt (he.caller_lt h.mem_calls)
  have harrives := take_arrives s st
  have hstrange : ∀ m, m ≠ d.link → StrangerAt d.caller (s.take st).2.1 m := fun m hm =>
    harrives.stranger (h.strange m hm) fun _ => hne
  have hreceived : ∀ {k i}, (s.take st).2.1.cores = (s.post k i).cores →
      (Moment.input i).caller? ≠ some d.caller → ∃ is,
        Lodged d { n with inbox := n.inbox ++ is } (s.take st).2.1 ∧
          ∀ i ∈ is, (Moment.input i).caller? ≠ some d.caller := by
    intro k i hcores hi
    have hnow := h.receive hb hcalls hcores hstrange
    by_cases hk : k = d.link
    · rw [if_pos hk] at hnow
      exact ⟨[i], hnow, fun j hj => List.mem_singleton.mp hj ▸ hi⟩
    · rw [if_neg hk] at hnow
      exact ⟨[], by simpa using hnow, List.forall_mem_nil _⟩
  have hstays : Lodged d n (s.take st).2.1 → ∃ is,
      Lodged d { n with inbox := n.inbox ++ is } (s.take st).2.1 ∧
        ∀ i ∈ is, (Moment.input i).caller? ≠ some d.caller := fun hnow =>
    ⟨[], by simpa using hnow, List.forall_mem_nil _⟩
  cases harrives with
  | nothing cores =>
    exact hstays ⟨hb, hcalls, (congrArg (·[d.link]?) cores).trans h.node, hstrange⟩
  | @link name role config session =>
    have hadded := openLink_aside d.caller name role config s
    rw [← session] at hadded
    exact hstays (hadded.lodged (Nat.ne_of_gt h.lt) h hb)
  | @detached j _ session =>
    have hcores : (s.take st).2.1.cores = s.cores := by
      rw [session]
      rfl
    exact hstays ⟨hb, hcalls, (congrArg (·[d.link]?) hcores).trans h.node, hstrange⟩
  | request _ cores => exact hreceived cores fun hc => hne (Option.some.inj hc)
  | callback cores => exact hreceived cores nofun
  | event _ _ cores => exact hreceived cores nofun

theorem callers_coming (s : Session) (n : Node) :
    Link.callers (s.coming n) = n.inbox.filterMap fun i => (Moment.input i).caller? :=
  List.filterMap_map

theorem count_callers_eq_zero {is : List Input} {x : Caller}
    (h : ∀ i ∈ is, (Moment.input i).caller? ≠ some x) :
    (is.filterMap fun i => (Moment.input i).caller?).count x = 0 := by
  refine List.count_eq_zero.mpr fun hm => ?_
  obtain ⟨i, hi, hx⟩ := List.mem_filterMap.mp hm
  exact h i hi hx

/-- A call under way, by the course its link has taken since it knew nothing of the caller. The
caller has been told nothing, and its request has come to the link or is about to. -/
structure InHand (d : Call) (k : Continuation) (l : Link) (ms : List (Nat × Moment)) (n : Node)
    (s : Session) : Prop where
  expects : d.Expects k
  lodged : Lodged d n s
  sound : l.Sound
  unknown : l.pending.idsOf d.caller = []
  course : n.link = (l.run ms).1
  silent : Link.told d.caller (l.run ms).2 = []
  once : (Link.callers (ms ++ s.coming n)).count d.caller = 1

variable {l : Link} {ms : List (Nat × Moment)}

/-- A call that is made is under way from the state of its link. -/
theorem InHand.made (hb : Balanced s) (he : Enrolled s) (hf : Fresh s) {i : LinkIndex}
    (hn : s.nodes[i]? = some n) (label : String) (r : Message.Request) (k : Continuation) :
    InHand { caller := s.callers, label, link := i, continuation := some k } k n.link []
      (n.core.receive (.request r s.callers)) (s.call label i r (some k)) := by
  obtain ⟨hids, hinbox⟩ := ((hf s.callers (Nat.le_refl _)).links i).node hn
  have hnone := count_callers_eq_zero hinbox
  refine ⟨⟨rfl, rfl⟩, .made hb he hf hn label r k, hb.sound hn, hids, rfl, rfl, ?_⟩
  rw [List.nil_append, callers_coming, Node.receive, List.filterMap_append, List.count_append]
  have hone : ([Input.request r s.callers].filterMap fun i => (Moment.input i).caller?).count
      s.callers = 1 := List.count_singleton_self
  exact congr (congrArg HAdd.hAdd hnone) hone

/-- What its link tells the caller next is what becomes of the call. -/
theorem InHand.told (h : InHand d k l ms n s) :
    Link.told d.caller (n.link.run (s.coming n)).2 =
      (Link.fateOf d.caller l (ms ++ s.coming n)).toList := by
  have hall := (Link.run_fateOf h.sound h.unknown (Nat.le_of_eq h.once)).1
  rwa [Link.run_append, Link.told_append, h.silent, List.nil_append, ← h.course] at hall

theorem InHand.fateOf_none (h : InHand d k l ms n s) : Link.fateOf d.caller l ms = none := by
  have honce := Nat.le_of_eq h.once
  rw [Link.callers_append, List.count_append] at honce
  have hsilent := (Link.run_fateOf h.sound h.unknown (Nat.le_of_add_right_le honce)).1
  rw [h.silent] at hsilent
  exact Option.toList_eq_nil_iff.mp hsilent.symm

theorem InHand.settled (h : InHand d k l ms n s)
    (hf : Link.fateOf d.caller l (ms ++ s.coming n) = some outcome) :
    Settled (d.given outcome) (reacted s).1 :=
  h.lodged.settled h.expects (by rw [h.told, hf]; rfl)

/-- A link with a call that waits is not due to connect again. -/
theorem InHand.deadline (h : InHand d k l ms n s)
    (hf : Link.fateOf d.caller l (ms ++ s.coming n) = none) :
    (n.link.run (s.coming n)).1.deadline = none := by
  have hcalls : d.caller ∈ Link.callers (ms ++ s.coming n) :=
    List.count_pos_iff.mp (h.once ▸ Nat.one_pos)
  obtain ⟨id, hid⟩ := (Link.run_fateOf h.sound h.unknown (Nat.le_of_eq h.once)).2 hf hcalls
  rw [Link.run_append, ← h.course] at hid
  have hs := Link.run_sound h.lodged.sound (s.coming n)
  have hopen := hs.open_of_awaiting hid
  exact Option.not_isSome_iff_eq_none.mp fun hdue => hopen (hs.due.mp hdue)

/-- As long as a call has no fate, its caller is told nothing. -/
theorem InHand.told_nothing (h : InHand d k l ms n s)
    (hf : Link.fateOf d.caller l (ms ++ s.coming n) = none) :
    Link.told d.caller (n.link.run (s.coming n)).2 = [] := by
  rw [h.told, hf]
  rfl

theorem InHand.waits (h : InHand d k l ms n s)
    (hf : Link.fateOf d.caller l (ms ++ s.coming n) = none) :
    (Session.reacted s).1.callsOf d.caller = [d] :=
  (h.lodged.reacted h.expects (h.told_nothing hf) (h.deadline hf)).calls

/-- A call that is not settled is under way still when the session is idle and callers are told. -/
theorem InHand.tell (h : InHand d k l ms n s)
    (hf : Link.fateOf d.caller l (ms ++ s.coming n) = none) :
    InHand d k l (ms ++ s.coming n)
      { n with link := (n.link.run (s.coming n)).1, inbox := [] } (tell (settleDown s).1).1 where
  expects := h.expects
  lodged := (h.lodged.settleDown h.expects (h.told_nothing hf) (h.deadline hf)).tell h.expects
  sound := h.sound
  unknown := h.unknown
  course := by rw [Link.run_append, ← h.course]
  silent := by
    rw [Link.run_append, Link.told_append, h.silent, ← h.course, h.told_nothing hf, List.nil_append]
  once := by
    have honce := h.once
    rwa [← List.append_nil (ms ++ s.coming n)] at honce

/-- A call that a step does not drop stays under way, with more to come to its link at most. -/
theorem InHand.take (h : InHand d k l ms n s) (he : Enrolled s) {st : Step}
    (hst : st.drops? ≠ some d.label) :
    ∃ is, InHand d k l ms { n with inbox := n.inbox ++ is } (s.take st).2.1 := by
  obtain ⟨is, hlodged, his⟩ := h.lodged.take he hst
  refine ⟨is, h.expects, hlodged, h.sound, h.unknown, h.course, h.silent, ?_⟩
  have hnone := count_callers_eq_zero his
  have honce := h.once
  rw [Link.callers_append, callers_coming, List.count_append] at honce ⊢
  rw [List.filterMap_append, List.count_append, hnone, Nat.add_zero]
  exact honce

end Switchboard.Session
