import Switchboard.Proofs.Session.Firsts
import Switchboard.Proofs.Session.Handles
import Switchboard.Proofs.Session.Resumed

/-!
The links that the calls of a session add. A call that is to go on stays under way until its link
tells its caller an outcome, and adds its link when the session next runs until it is idle. What a
step adds beside what it opens itself is what its calls were expected to add.
-/

namespace Switchboard.Session

open Link (Caller Input Moment)

variable {s s' : Session} {d : Call} {k : Continuation} {n : Node}

/-! ### Calls that go on -/

/-- The outcome that its link tells the caller of a call in its reaction to what has come to it. -/
def reply? (s : Session) (d : Call) : Option Link.Outcome :=
  (s.nodes[d.link]?).bind fun n => (Link.told d.caller (n.link.run (s.coming n)).2).head?

def Call.resumes (d : Call) (s : Session) : List (Bool × Step) → Option Link.Outcome
  | [] => none
  | (held, st) :: rest =>
    if st.drops? = some d.label then none
    else
      let now := if held then none else (s.take st).2.1.reply? d
      now.or (d.resumes (s.step held st).2.1 rest)

def Call.opens (d : Call) (outcome : Option Link.Outcome) : Option String :=
  d.continuation.bind fun k => outcome.bind k.opening?

def AllInHand (s : Session) : Prop :=
  ∀ d ∈ s.calls, ∀ k, d.continuation = some k → ∃ l ms n, InHand d k l ms n s

variable {l : Link} {ms : List (Nat × Moment)}

/-- What a call is told next is what its link has made of its course so far and of what has come. -/
theorem InHand.reply?_eq (h : InHand d k l ms n s) :
    s.reply? d = Link.fateOf d.caller l (ms ++ s.coming n) := by
  obtain ⟨actual, hactual, rfl⟩ := h.lodged.at
  have htold : Link.told d.caller (actual.link.run (s.coming actual)).2 = _ := h.told
  rw [reply?, hactual, Option.bind_some, htold]
  cases Link.fateOf d.caller l (ms ++ s.coming actual.core) <;> rfl

theorem SameCalls.callers_eq (h : SameCalls s s') :
    s'.calls.map (·.caller) = s.calls.map (·.caller) := by
  have hroll := congrArg (List.map (·.1)) h.roll
  rwa [Session.roll, Session.roll, List.map_map, List.map_map] at hroll

theorem SameCalls.isSome_eq (h : SameCalls s s') (he : Enrolled s) {c c' : Call}
    (hc : c ∈ s.calls) (hc' : c' ∈ s'.calls) (hx : c.caller = c'.caller) :
    c'.continuation.isSome = c.continuation.isSome := by
  have hm : c'.entry ∈ s.roll := h.roll ▸ List.mem_map_of_mem hc'
  have hentry := List.inj_on_of_nodup_map he.single (List.mem_map_of_mem hc) hm hx
  exact (congrArg (fun e => e.2.2) hentry).symm

theorem eq_of_callsOf {x : Caller} {c : Call} (h : s.callsOf x = [d]) (hc : c ∈ s.calls)
    (hx : c.caller = x) : c = d :=
  List.mem_singleton.mp (h ▸ mem_callsOf.mpr ⟨hc, hx⟩)

theorem reacted_sameCalls (s : Session) : SameCalls s (reacted s).1 := by
  rw [reacted, Change.andThen_fst, Change.andThen_fst]
  have hdrained : SameCalls s (drainAll s).1 := SameCalls.each drain_sameCalls _ s
  have hretired := fun t : Session => SameCalls.each retire_sameCalls (List.range t.nodes.length) t
  exact hdrained.trans ((hretired _).trans (SameCalls.each ring_sameCalls _ _))

/-- A call that is due once links have reacted is one whose link has told its caller an outcome. -/
theorem due_of_reacted (he : Enrolled s) (hs : AllInHand s) {c c' : Call} (hc : c ∈ s.calls)
    (hc' : c' ∈ (reacted s).1.calls) (hx : c.caller = c'.caller) :
    c'.due? = (c.continuation.bind fun k => (s.reply? c).map fun o => (k, o)) ∧
      (c'.due? ≠ none → c'.caller ∈ (reacted s).1.woken) := by
  cases hk : c.continuation with
  | none =>
    have hsome := (reacted_sameCalls s).isSome_eq he hc hc' hx
    rw [hk] at hsome
    have hplain : c'.continuation = none := by simpa using hsome
    have hdue : c'.due? = none := by simp [Call.due?, hplain]
    exact ⟨hdue, fun h => absurd hdue h⟩
  | some k =>
    obtain ⟨l, ms, n, h⟩ := hs c hc k hk
    rw [Option.bind_some, h.reply?_eq]
    cases hf : Link.fateOf c.caller l (ms ++ s.coming n) with
    | none =>
      obtain rfl := eq_of_callsOf (h.waits hf) hc' hx.symm
      exact ⟨h.expects.due?, fun hdue => absurd h.expects.due? hdue⟩
    | some outcome =>
      have hsettled := h.settled hf
      obtain rfl := eq_of_callsOf hsettled.calls hc' hx.symm
      exact ⟨by simp [Call.due?, Call.given, hk], fun _ => hsettled.woken⟩

/-- When a session runs until it is idle, links are added by the calls whose links have told their
callers of success. -/
theorem settleDown_adds (he : Enrolled s) (hb : Begun s) (hs : AllInHand s) :
    ∃ urls, Adds urls s (settleDown s).1 ∧
      urls.Perm (s.calls.filterMap fun c => c.opens (s.reply? c)) := by
  have hretire : ∀ {t}, Begun t → Steady t (retireAll t).1 := fun ht =>
    .each ht fun k _ _ ht => retire_steady ht k
  have hreacted : Steady s (reacted s).1 := by
    have hdrained : Steady s (drainAll s).1 := .each hb fun k _ _ ht => drain_steady ht k
    have hrung : ∀ {t}, Begun t → Steady t (ringAll t).1 := fun ht =>
      .each ht fun k _ _ ht => ring_steady ht k
    exact (hdrained.then hretire).then hrung
  have hsame := reacted_sameCalls s
  have hdue := fun c (hc : c ∈ s.calls) (c' : Call) hc' (hx : c.caller = c'.caller) =>
    due_of_reacted he hs hc hc' hx
  obtain ⟨urls, hadds, hperm⟩ := resumeAll_adds (hsame.enrolled he) hreacted.begun
    fun c' hc' => by
      have hm : c'.caller ∈ s.calls.map (·.caller) :=
        hsame.callers_eq ▸ List.mem_map_of_mem hc'
      obtain ⟨c, hc, hx⟩ := List.mem_map.mp hm
      exact (hdue c hc c' hc' hx).2
  have hretired := hretire hadds.begun
  rw [settleDown_eq, Change.andThen_fst, Change.andThen_fst]
  refine ⟨urls, ⟨hretired.begun, ?_⟩, hperm.trans (.of_eq ?_)⟩
  · rw [hretired.firsts, hadds.firsts, hreacted.firsts]
  · refine filterMap_eq_of_keys hsame.callers_eq fun c' hc' c hc hx => ?_
    rw [Call.opening?, (hdue c hc c' hc' hx.symm).1, Call.opens]
    cases c.continuation with
    | none => rfl
    | some k => cases s.reply? c <;> rfl

/-- A call is still there when callers have been told, unless its link has told it an outcome. -/
theorem after_tell (hs : AllInHand s) {c c' : Call} (hc : c ∈ s.calls)
    (hc' : c' ∈ (settleDown s).1.calls) (hx : c.caller = c'.caller) (hk : c.continuation = some k) :
    (s.reply? c = none → c' = c ∧ ∃ l ms n, InHand c k l ms n (tell (settleDown s).1).1) ∧
      (s.reply? c ≠ none → c'.isDone = true) := by
  obtain ⟨l, ms, n, h⟩ := hs c hc k hk
  rw [h.reply?_eq]
  cases hf : Link.fateOf c.caller l (ms ++ s.coming n) with
  | none =>
    have hwaits := h.lodged.settleDown h.expects (h.told_nothing hf) (h.deadline hf)
    exact ⟨fun _ => ⟨eq_of_callsOf hwaits.calls hc' hx.symm, l, _, _, h.tell hf⟩,
      fun hsome => absurd rfl hsome⟩
  | some outcome =>
    have hended := (h.settled hf).settleDown hk
    obtain rfl := eq_of_callsOf hended hc' hx.symm
    exact ⟨nofun, fun _ => rfl⟩

theorem tell_filter (s : Session) : (tell s).1.calls = s.calls.filter (!·.isDone) := rfl

/-- Callers who are told leave, and the other calls that are to go on are as they were. -/
theorem tell_calls (he : Enrolled s) (hs : AllInHand s) {f : Call → Option β}
    (hf : ∀ c, c.continuation = none → f c = none) :
    (tell (settleDown s).1).1.calls.filterMap f =
      s.calls.filterMap fun c => if (s.reply? c).isSome then none else f c := by
  have hsame := settleDown_sameCalls s
  rw [tell_filter, List.filterMap_filter]
  refine filterMap_eq_of_keys hsame.callers_eq fun c' hc' c hc hx => ?_
  cases hk : c.continuation with
  | none =>
    have hsome := hsame.isSome_eq he hc hc' hx.symm
    rw [hk] at hsome
    have hplain : c'.continuation = none := by simpa using hsome
    rw [hf c' hplain, hf c hk, ite_self, ite_self]
  | some k =>
    obtain ⟨hwaits, hdone⟩ := after_tell hs hc hc' hx.symm hk
    cases hr : s.reply? c with
    | none =>
      obtain ⟨rfl, l, ms, n, h⟩ := hwaits hr
      simp [h.expects.isDone]
    | some outcome => simp [hdone (by simp [hr])]

theorem AllInHand.tell (hs : AllInHand s) (he : Enrolled s) :
    AllInHand (tell (settleDown s).1).1 := by
  intro c' hc' k hk
  rw [tell_filter] at hc'
  obtain ⟨hm, hgoing⟩ := List.mem_filter.mp hc'
  have hsame := settleDown_sameCalls s
  have hx : c'.caller ∈ s.calls.map (·.caller) := hsame.callers_eq ▸ List.mem_map_of_mem hm
  obtain ⟨c, hc, hx⟩ := List.mem_map.mp hx
  have hsome := hsame.isSome_eq he hc hm hx
  rw [hk] at hsome
  obtain ⟨k', hk'⟩ := Option.isSome_iff_exists.mp hsome.symm
  obtain ⟨hwaits, hdone⟩ := after_tell hs hc hm hx hk'
  cases hr : s.reply? c with
  | none =>
    obtain ⟨rfl, h⟩ := hwaits hr
    obtain rfl := Option.some.inj (hk.symm.trans hk')
    exact h
  | some outcome => simp [hdone (by simp [hr])] at hgoing

/-! ### Steps -/

def Step.opens? : Step → Option String
  | .connect _ url _ _ => (Address.parse url).toOption.map (·.text)
  | .openHub _ e => e.control.toOption.map (·.text)
  | .openInstance _ e suffix => (e.instanceAt suffix).toOption.map (·.text)
  | _ => none

def newcomer? (s : Session) : Step → Option Call
  | .send name label _ => (s.handle? name).map fun h =>
      { caller := s.callers, label, link := h.link }
  | .askHub name label call opened => (s.handle? name).bind fun h =>
      match h.role with
      | .hub e =>
        match call.plan e with
        | .ok p =>
          some { caller := s.callers, label, link := h.link
                 continuation := some ⟨p.sequel, opened, e.verbose⟩ }
        | .error why =>
          some { caller := s.callers, label, link := h.link
                 progress := .done (.answer (.error (.misaddressed why))) }
      | _ => none
  | .askInstance name label call => (s.handle? name).map fun h =>
      { caller := s.callers, label, link := h.link
        continuation := some ⟨call.plan.sequel, "", false⟩ }
  | _ => none

theorem filter_not_dropped {st : Step} (hst : st.drops? = none) (cs : List Call) :
    cs.filter (fun c => decide (st.drops? ≠ some c.label)) = cs :=
  List.filter_eq_self.mpr fun c _ => by simp [hst]

theorem withHandle_calls (s : Session) (name : String) {f : Handle → Session}
    {g : Handle → Option Call} (hf : ∀ h, (f h).calls = s.calls ++ (g h).toList) :
    (s.withHandle name f).2.1.calls = s.calls ++ ((s.handle? name).bind g).toList := by
  unfold withHandle
  split
  · rename_i h hh
    rw [hh, Option.bind_some]
    exact hf h
  · rename_i hh
    rw [hh]
    exact (List.append_nil _).symm

/-- A step drops the calls of a label, or makes one call, or leaves the calls as they are. -/
theorem take_calls (s : Session) (st : Step) :
    (s.take st).2.1.calls =
      s.calls.filter (fun c => decide (st.drops? ≠ some c.label)) ++ (s.newcomer? st).toList := by
  have hnone : s.calls = s.calls ++ [] := (List.append_nil _).symm
  cases st with
  | abandon label =>
    simp only [take, newcomer?, Step.drops?, Option.toList_none, List.append_nil]
    refine List.filter_congr fun c _ => ?_
    by_cases hl : c.label = label <;> simp [hl, Ne.symm]
  | send name label r | askInstance name label c =>
    rw [filter_not_dropped rfl, newcomer?, Option.map_eq_bind]
    exact withHandle_calls s name fun _ => rfl
  | askHub name label c opened =>
    rw [filter_not_dropped rfl]
    refine withHandle_calls s name fun h => ?_
    cases h.role with
    | client | member => exact hnone
    | hub e =>
      simp only
      cases c.plan e <;> rfl
  | clone name copy | subscribe name tag =>
    rw [filter_not_dropped rfl]
    have hnobody : ((s.handle? name).bind fun _ => (none : Option Call)) = none := by simp
    exact (withHandle_calls s name fun _ => hnone).trans (by rw [hnobody]; rfl)
  | openHub name e | openInstance name e suffix =>
    rw [filter_not_dropped rfl]
    simp only [take, openAt]
    split <;> exact hnone
  | connect name url verbose delay =>
    rw [filter_not_dropped rfl]
    simp only [take]
    split <;> exact hnone
  | watch name tag =>
    rw [filter_not_dropped rfl]
    simp only [take]
    split
    · exact hnone
    · split <;> exact hnone
  | transport i event =>
    rw [filter_not_dropped rfl]
    simp only [take]
    split
    · exact hnone
    · split <;> exact hnone
  | drop | detach | advance | connections | wait =>
    rw [filter_not_dropped rfl]
    exact hnone

/-- A call that is to go on is made on the link of a handle, with a request of its own. -/
theorem newcomer_call {st : Step} (hd : s.newcomer? st = some d) (hk : d.continuation = some k) :
    d = { caller := s.callers, label := d.label, link := d.link, continuation := some k } ∧
      (∃ r, (s.take st).2.1 = s.call d.label d.link r (some k)) ∧
      ∃ h ∈ s.handles, h.link = d.link := by
  cases st with
  | send name label r =>
    obtain ⟨h, -, rfl⟩ := Option.map_eq_some_iff.mp hd
    cases hk
  | askInstance name label c =>
    obtain ⟨h, hh, rfl⟩ := Option.map_eq_some_iff.mp hd
    cases hk
    refine ⟨rfl, ⟨c.plan.request, ?_⟩, h, List.mem_of_find?_eq_some hh, rfl⟩
    simp only [take, withHandle, hh]
  | askHub name label c opened =>
    obtain ⟨h, hh, hd⟩ := Option.bind_eq_some_iff.mp hd
    cases hrole : h.role with
    | client | member =>
      rw [hrole] at hd
      cases hd
    | hub e =>
      cases hplan : c.plan e with
      | error why =>
        simp only [hrole, hplan, Option.some.injEq] at hd
        subst hd
        cases hk
      | ok p =>
        simp only [hrole, hplan, Option.some.injEq] at hd
        subst hd
        cases hk
        refine ⟨rfl, ⟨p.request, ?_⟩, h, List.mem_of_find?_eq_some hh, rfl⟩
        simp only [take, withHandle, hh, hrole, hplan]
  | _ => cases hd

/-- A call that a step makes is under way. -/
theorem AllInHand.take (hs : AllInHand s) (he : Enrolled s) (hf : Fresh s) (ho : Owned s)
    (st : Step) : AllInHand (s.take st).2.1 := by
  intro d hd k hk
  rw [take_calls] at hd
  rcases List.mem_append.mp hd with hd | hd
  · obtain ⟨hd, hstays⟩ := List.mem_filter.mp hd
    obtain ⟨l, ms, n, h⟩ := hs d hd k hk
    obtain ⟨is, htaken⟩ := h.take he (of_decide_eq_true hstays)
    exact ⟨l, ms, _, htaken⟩
  · obtain ⟨hshape, ⟨r, htake⟩, handle, hm, hl⟩ := newcomer_call (Option.mem_toList.mp hd) hk
    have hlt : d.link < s.nodes.length := hl ▸ ho handle hm
    have hmade := InHand.made (hf s.callers (Nat.le_refl _)).balanced he hf
      (List.getElem?_eq_getElem hlt) d.label r k
    rw [← hshape, ← htake] at hmade
    exact ⟨_, _, _, hmade⟩

theorem openAt_adds (h : Begun s) (name : String) (role : Role) (e : Hub.Endpoint)
    (address : Except Hub.Misaddressed Address) :
    Adds (address.toOption.map (·.text)).toList s (s.openAt name role e address).2.1 := by
  unfold openAt
  cases address with
  | error why => exact (Steady.refl h).adds
  | ok a => exact openLink_adds h name role { url := a.text, verbose := e.verbose }

theorem withHandle_steady (h : Begun s) (name : String) {f : Handle → Session}
    (hf : ∀ x, Steady s (f x)) : Steady s (s.withHandle name f).2.1 := by
  unfold withHandle
  split
  · exact hf _
  · exact .refl h

theorem post_steady (h : Begun s) (i : LinkIndex) (input : Input) : Steady s (s.post i input) :=
  ⟨h.setNode fun _ _ hn => hn, rfl⟩

theorem call_steady (h : Begun s) (label : String) (i : LinkIndex) (r : Message.Request)
    (k : Option Continuation) : Steady s (s.call label i r k) :=
  ⟨(post_steady h i (.request r s.callers)).begun, rfl⟩

/-- A step itself opens the link that it says it opens, and no other. -/
theorem take_adds (h : Begun s) (st : Step) : Adds st.opens?.toList s (s.take st).2.1 := by
  cases st with
  | connect name url verbose delay =>
    simp only [take, Step.opens?]
    cases Address.parse url with
    | error fault => exact (Steady.refl h).adds
    | ok a =>
      exact openLink_adds h name .client { url := a.text, reconnectDelay := delay, verbose }
  | openHub name e => exact openAt_adds h name (.hub e) e e.control
  | openInstance name e suffix => exact openAt_adds h name .member e (e.instanceAt suffix)
  | clone name => exact Steady.adds (withHandle_steady h name fun _ => .of_same h rfl rfl)
  | send name | askInstance name =>
    exact Steady.adds (withHandle_steady h name fun x => call_steady h ..)
  | subscribe name => exact Steady.adds (withHandle_steady h name fun x => post_steady h x.link _)
  | askHub name label c opened =>
    refine Steady.adds (withHandle_steady h name fun x => ?_)
    split
    · split
      · exact call_steady h ..
      · exact .of_same h rfl rfl
    · exact .refl h
  | watch name tag =>
    simp only [take]
    split
    · exact (Steady.refl h).adds
    · split
      · exact (Steady.refl h).adds
      · exact Steady.adds (.of_same h rfl rfl)
  | transport i event =>
    simp only [take]
    split
    · exact (Steady.refl h).adds
    · split
      · exact (post_steady h _ _).adds
      · exact (Steady.refl h).adds
  | detach i =>
    have hsame := firsts_setSocket s i (f := fun k => { k with attached := false })
      fun _ => ⟨rfl, rfl⟩
    exact Steady.adds ⟨h, hsame⟩
  | drop | abandon | advance | connections | wait => exact Steady.adds (.of_same h rfl rfl)

/-! ### Runs -/

/-- What holds of a session between steps. -/
structure Regular (s : Session) : Prop where
  enrolled : Enrolled s
  fresh : Fresh s
  begun : Begun s
  owned : Owned s
  calls : AllInHand s

/-- The links that the calls of a session add in some steps, by their addresses. -/
def expected (s : Session) (sts : List (Bool × Step)) : List String :=
  s.calls.filterMap fun c => c.opens (c.resumes s sts)

def ordered (s : Session) : List (Bool × Step) → List String
  | [] => []
  | (held, st) :: rest =>
    (s.newcomer? st).toList.filterMap (fun c => c.opens (c.resumes s ((held, st) :: rest))) ++
      ordered (s.step held st).2.1 rest

theorem Regular.take (h : Regular s) (st : Step) :
    Enrolled (s.take st).2.1 ∧ AllInHand (s.take st).2.1 :=
  ⟨(take_enrols s st).enrolled h.enrolled, h.calls.take h.enrolled h.fresh h.owned st⟩

theorem step_unheld_fst (s : Session) (st : Step) :
    (s.step false st).2.1 = (tell (settleDown (s.take st).2.1).1).1 := by
  simp only [step, Bool.false_eq_true, ↓reduceIte, Change.andThen_fst]

theorem tell_steady (h : Begun s) : Steady s (tell s).1 := .of_same h rfl rfl

theorem Owned.tell (h : Owned s) : Owned (tell s).1 := h

theorem Regular.step (h : Regular s) (held : Bool) (st : Step) : Regular (s.step held st).2.1 := by
  obtain ⟨henrolled, hcalls⟩ := h.take st
  have hbegun := (take_adds h.begun st).begun
  have howned := h.owned.take st
  have henrolled' := h.enrolled.step held st
  have hfresh' := h.fresh.step h.enrolled held st
  cases held with
  | true => exact ⟨henrolled', hfresh', hbegun, howned, hcalls⟩
  | false =>
    obtain ⟨urls, hadds, -⟩ := settleDown_adds henrolled hbegun hcalls
    have hbegun' := (tell_steady hadds.begun).begun
    have howned' := howned.settleDown.tell
    have hcalls' := hcalls.tell henrolled
    rw [← step_unheld_fst] at hbegun' howned' hcalls'
    exact ⟨henrolled', hfresh', hbegun', howned', hcalls'⟩

theorem newcomer_stays {st : Step} (hd : s.newcomer? st = some d) : st.drops? = none := by
  cases st with
  | abandon label => cases hd
  | _ => rfl

/-- Values of two kinds that no element has both of, side by side. -/
theorem filterMap_perm_or {f g : α → Option β} {xs : List α}
    (h : ∀ a ∈ xs, f a = none ∨ g a = none) :
    (xs.filterMap f ++ xs.filterMap g).Perm (xs.filterMap fun a => (f a).or (g a)) := by
  induction xs with
  | nil => exact .refl _
  | cons a xs ih =>
    obtain ⟨ha, hxs⟩ := List.forall_mem_cons.mp h
    rw [List.filterMap_cons, List.filterMap_cons, List.filterMap_cons]
    cases hf : f a with
    | some b =>
      rw [ha.resolve_left (by simp [hf])]
      exact (ih hxs).cons b
    | none =>
      rw [Option.none_or]
      cases g a with
      | none => exact ih hxs
      | some b => exact List.perm_middle.trans ((ih hxs).cons b)

theorem Call.opens_none (d : Call) : d.opens none = none := by
  unfold opens
  cases d.continuation <;> rfl

/-- What the calls add that are there once a step is taken. -/
theorem take_expected (s : Session) (held : Bool) (st : Step) (rest : List (Bool × Step)) :
    ((s.take st).2.1.calls.filterMap fun c =>
      c.opens ((if held then none else (s.take st).2.1.reply? c).or
        (c.resumes (s.step held st).2.1 rest))) =
      s.expected ((held, st) :: rest) ++ (s.newcomer? st).toList.filterMap fun c =>
        c.opens (c.resumes s ((held, st) :: rest)) := by
  rw [take_calls, List.filterMap_append, List.filterMap_filter, expected]
  congr 1
  · refine filterMap_congr_mem fun c _ => ?_
    by_cases hst : st.drops? = some c.label
    · simp [Call.resumes, hst, Call.opens_none]
    · simp [Call.resumes, hst]
  · refine filterMap_congr_mem fun c hc => ?_
    have hst := newcomer_stays (Option.mem_toList.mp hc)
    simp [Call.resumes, hst]

/-- What a step adds, beside what it opens itself, is no longer expected after it. -/
theorem step_adds (h : Regular s) (held : Bool) (st : Step) (rest : List (Bool × Step)) :
    ∃ urls, Adds (st.opens?.toList ++ urls) s (s.step held st).2.1 ∧
      (urls ++ (s.step held st).2.1.expected rest).Perm
        (s.expected ((held, st) :: rest) ++ (s.newcomer? st).toList.filterMap fun c =>
          c.opens (c.resumes s ((held, st) :: rest))) := by
  rw [← take_expected]
  have htaken := take_adds h.begun st
  cases held with
  | true => exact ⟨[], by rwa [List.append_nil], .refl _⟩
  | false =>
    obtain ⟨henrolled, hcalls⟩ := h.take st
    obtain ⟨urls, hadds, hperm⟩ := settleDown_adds henrolled htaken.begun hcalls
    rw [step_unheld_fst]
    refine ⟨urls, htaken.andThen (hadds.steady (tell_steady hadds.begun)), ?_⟩
    rw [expected, tell_calls henrolled hcalls fun c hc => by rw [Call.opens, hc]; rfl]
    refine (hperm.append_right _).trans ((filterMap_perm_or fun c _ => ?_).trans (.of_eq ?_))
    · cases (s.take st).2.1.reply? c with
      | none => exact .inl c.opens_none
      | some outcome => exact .inr rfl
    · refine filterMap_congr_mem fun c _ => ?_
      cases (s.take st).2.1.reply? c with
      | none => simp [Call.opens_none]
      | some outcome => simp

/-- First connections are those of the links that steps open, and one for each call that goes on to
add a link. -/
theorem run_firsts (h : Regular s) (sts : List (Bool × Step)) :
    (s.run sts).1.firsts.Perm
      (s.firsts ++ (sts.filterMap (·.2.opens?) ++ (s.expected sts ++ s.ordered sts))) := by
  induction sts generalizing s with
  | nil => simp [run, expected, ordered, Call.resumes, Call.opens_none]
  | cons st sts ih =>
    obtain ⟨held, st⟩ := st
    have hrest := ih (h.step held st)
    obtain ⟨urls, hadds, hperm⟩ := step_adds h held st sts
    have hopens : ((held, st) :: sts).filterMap (·.2.opens?) =
        st.opens?.toList ++ sts.filterMap (·.2.opens?) := by
      rw [List.filterMap_cons]
      cases st.opens? <;> rfl
    rw [run, Change.andThen_fst, hopens, ordered]
    rw [hadds.firsts] at hrest
    rw [List.perm_iff_count] at hrest hperm ⊢
    intro url
    have hrest := hrest url
    have hperm := hperm url
    simp only [List.count_append] at hrest hperm ⊢
    omega

end Switchboard.Session
