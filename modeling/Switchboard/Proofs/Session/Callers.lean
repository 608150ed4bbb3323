import Switchboard.Proofs.Session.AtRest

namespace Switchboard.Session

open Link (Caller Effect Input)

variable {s s' : Session} {c : Change} {free : List String}

/-- What is known of a call from the start: its caller, its label and whether it goes on. -/
def Call.entry (c : Call) : Caller × String × Bool := (c.caller, c.label, c.continuation.isSome)

def roll (s : Session) : List (Caller × String × Bool) := s.calls.map Call.entry

/-- The same calls, and as many callers so far. -/
structure SameCalls (s s' : Session) : Prop where
  roll : s'.roll = s.roll
  callers : s'.callers = s.callers

theorem SameCalls.refl (s : Session) : SameCalls s s := ⟨rfl, rfl⟩

theorem SameCalls.trans {s'' : Session} (h : SameCalls s s') (h' : SameCalls s' s'') :
    SameCalls s s'' :=
  ⟨h'.roll.trans h.roll, h'.callers.trans h.callers⟩

theorem SameCalls.each {f : α → Session → Change} (hf : ∀ x s, SameCalls s (f x s).1)
    (xs : List α) (s : Session) : SameCalls s (each xs f s).1 :=
  each_induction (fun x _ t h => h.trans (hf x t)) (.refl s)

theorem Call.settle_entry (c : Call) (outcome : Link.Outcome) :
    (c.settle outcome).entry = c.entry := by
  unfold Call.settle
  split
  · rfl
  · rfl
  · rfl

theorem SameCalls.map {f : Call → Call} (hf : ∀ c, (f c).entry = c.entry)
    (hc : s'.calls = s.calls.map f) (hn : s'.callers = s.callers) : SameCalls s s' := by
  refine ⟨?_, hn⟩
  rw [Session.roll, hc, List.map_map, Session.roll]
  exact List.map_congr_left fun c _ => hf c

theorem settle_sameCalls (s : Session) (caller : Caller) (outcome : Link.Outcome) :
    SameCalls s (s.settle caller outcome) := by
  refine .map (fun c => ?_) rfl rfl
  split
  · exact c.settle_entry outcome
  · rfl

theorem perform_sameCalls (l : LinkIndex) (e : Effect) (s : Session) :
    SameCalls s (perform l e s).1 := by
  cases e with
  | settle t => exact settle_sameCalls ..
  | forget caller => exact settle_sameCalls ..
  | connect | publish | notify | log => exact ⟨rfl, rfl⟩
  | send epoch id text =>
    simp only [perform]
    split
    · exact .refl s
    · split <;> exact .refl s
  | close epoch =>
    simp only [perform]
    split <;> exact ⟨rfl, rfl⟩

theorem performAll_sameCalls (l : LinkIndex) (es : List Effect) (f : Node → Node) (s : Session) :
    SameCalls s (each es (perform l) (s.setNode l f)).1 := by
  have hset : SameCalls s (s.setNode l f) := ⟨rfl, rfl⟩
  exact hset.trans (.each (perform_sameCalls l) es _)

theorem deliver_sameCalls (l : LinkIndex) (i : Input) (s : Session) :
    SameCalls s (deliver l i s).1 := by
  unfold deliver
  split
  · exact .refl s
  · exact performAll_sameCalls ..

theorem drain_sameCalls (l : LinkIndex) (s : Session) : SameCalls s (drain l s).1 := by
  unfold drain
  split
  · exact .refl s
  · have hemptied : SameCalls s (s.setNode l fun n => { n with inbox := [] }) := ⟨rfl, rfl⟩
    exact hemptied.trans (.each (deliver_sameCalls l) _ _)

theorem retire_sameCalls (l : LinkIndex) (s : Session) : SameCalls s (retire l s).1 := by
  unfold retire
  split
  · exact .refl s
  · split
    · exact .refl s
    · exact performAll_sameCalls ..

theorem ring_sameCalls (l : LinkIndex) (s : Session) : SameCalls s (ring l s).1 := by
  unfold ring
  split
  · exact .refl s
  · split
    · exact .refl s
    · exact performAll_sameCalls ..

theorem openLink_sameCalls (name : String) (role : Role) (config : Link.Config) (s : Session) :
    SameCalls s (openLink name role config s).1 := by
  have hadded : SameCalls s { s with nodes := s.nodes ++ [{ link := (Link.start config).1 }] } :=
    ⟨rfl, rfl⟩
  have hmade : SameCalls s (addLink config s).1 :=
    hadded.trans (.each (perform_sameCalls s.nodes.length) _ _)
  exact hmade.trans ⟨rfl, rfl⟩

def Call.due? (c : Call) : Option (Continuation × Link.Outcome) :=
  match c.continuation, c.progress with
  | some k, .settled outcome => some (k, outcome)
  | _, _ => none

def finish (caller : Caller) (result : Result) (s : Session) : Session :=
  let done (c : Call) : Call := { c with progress := .done result }
  { s with calls := s.calls.map fun c => if c.caller = caller then done c else c }

def goOn (caller : Caller) (k : Continuation) (outcome : Link.Outcome) (s : Session) : Change :=
  let s := s.finish caller (.answer (k.sequel.answer outcome))
  match outcome with
  | .error _ => (s, [])
  | .ok _ =>
    let opened : Change := match k.sequel.opens with
      | none => (s, [])
      | some a => s.openLink k.name .member { url := a.text, verbose := k.verbose }
    (opened.1, k.sequel.log.map .logged ++ opened.2)

theorem goOn_calls (caller : Caller) (k : Continuation) (outcome : Link.Outcome) (s : Session) :
    (goOn caller k outcome s).1.calls =
      (s.finish caller (.answer (k.sequel.answer outcome))).calls := by
  unfold goOn
  cases outcome with
  | error failure => rfl
  | ok v => cases k.sequel.opens <;> rfl

/-- Going on with a call, said by what is due. -/
theorem resume_eq (caller : Caller) (s : Session) :
    resume caller s =
      match (s.calls.find? (·.caller == caller)).bind Call.due? with
      | some (k, outcome) => goOn caller k outcome s
      | none => (s, []) := by
  unfold resume
  cases s.calls.find? (·.caller == caller) with
  | none => rfl
  | some c =>
    obtain ⟨_, _, _, continuation, progress⟩ := c
    cases continuation with
    | none => rfl
    | some k => cases progress <;> rfl

theorem finish_sameCalls (caller : Caller) (result : Result) (s : Session) :
    SameCalls s (s.finish caller result) := by
  refine .map (fun c => ?_) rfl rfl
  split <;> rfl

theorem goOn_sameCalls (caller : Caller) (k : Continuation) (outcome : Link.Outcome)
    (s : Session) : SameCalls s (goOn caller k outcome s).1 := by
  have hdone := finish_sameCalls caller (.answer (k.sequel.answer outcome)) s
  unfold goOn
  cases outcome with
  | error failure => exact hdone
  | ok v =>
    cases ho : k.sequel.opens with
    | none => exact hdone
    | some a => exact hdone.trans (openLink_sameCalls k.name .member _ _)

theorem resume_sameCalls (caller : Caller) (s : Session) : SameCalls s (resume caller s).1 := by
  rw [resume_eq]
  split
  · exact goOn_sameCalls ..
  · exact .refl s

theorem resumeAll_sameCalls (s : Session) : SameCalls s (resumeAll s).1 := by
  have hawake : SameCalls s { s with woken := [] } := ⟨rfl, rfl⟩
  exact hawake.trans (.each resume_sameCalls _ _)

/-- Running a session neither makes calls nor drops any. -/
theorem settleDown_sameCalls (s : Session) : SameCalls s (settleDown s).1 := by
  simp only [settleDown, Change.andThen_fst]
  have hretire := fun t : Session => SameCalls.each retire_sameCalls (List.range t.nodes.length) t
  have hdrain := SameCalls.each drain_sameCalls (List.range s.nodes.length) s
  exact hdrain.trans <| (hretire _).trans <| (SameCalls.each ring_sameCalls _ _).trans <|
    (resumeAll_sameCalls _).trans (hretire _)

/-- Every call has a caller of its own, among those there have been. -/
structure Enrolled (s : Session) : Prop where
  born : ∀ e ∈ s.roll, e.1 < s.callers
  single : (s.roll.map (·.1)).Nodup

theorem SameCalls.enrolled (h : SameCalls s s') (he : Enrolled s) : Enrolled s' := by
  obtain ⟨hroll, hcallers⟩ := h
  exact ⟨hroll ▸ hcallers ▸ he.born, hroll ▸ he.single⟩

/-- Calls that leave. -/
theorem Enrolled.of_sublist (h : Enrolled s) (hr : s'.roll.Sublist s.roll)
    (hc : s'.callers = s.callers) : Enrolled s' :=
  ⟨fun e he => hc ▸ h.born e (hr.subset he), h.single.sublist (hr.map _)⟩

theorem roll_concat {d : Call} (h : s'.calls = s.calls ++ [d]) : s'.roll = s.roll ++ [d.entry] := by
  rw [roll, h, List.map_append]
  rfl

/-- A call that comes, with a new caller. -/
theorem Enrolled.concat {d : Call} (h : Enrolled s) (hd : s'.calls = s.calls ++ [d])
    (hcaller : d.caller = s.callers) (hc : s'.callers = s.callers + 1) : Enrolled s' := by
  constructor
  · intro e he
    rw [roll_concat hd] at he
    rw [hc]
    rcases List.mem_append.mp he with he | he
    · exact Nat.lt_succ_of_lt (h.born e he)
    · obtain rfl := List.mem_singleton.mp he
      exact Nat.lt_succ_of_le (Nat.le_of_eq hcaller)
  · rw [roll_concat hd, List.map_append, List.nodup_append]
    refine ⟨h.single, by simp, fun x hx y hy hxy => ?_⟩
    obtain ⟨e, he, rfl⟩ := List.mem_map.mp hx
    obtain rfl := List.mem_singleton.mp hy
    exact Nat.ne_of_lt (h.born e he) (hxy.trans hcaller)

/-- Telling callers only lets calls go. -/
theorem tell_roll (s : Session) : (tell s).1.roll.Sublist s.roll := List.filter_sublist.map _

theorem tell_callers (s : Session) : (tell s).1.callers = s.callers := rfl

def Step.asks? : Step → Option String
  | .askHub _ label _ _ => some label
  | .askInstance _ label _ => some label
  | _ => none

def Step.drops? : Step → Option String
  | .abandon label => some label
  | _ => none

/-- What a step does to the calls of a session: it makes one, drops those of a label, or leaves them
as they are. -/
inductive Enrols (s : Session) (st : Step) (s' : Session) : Prop
  | same (calls : s'.calls = s.calls) (callers : s'.callers = s.callers) (stays : st.drops? = none)
  | made {c : Call} (calls : s'.calls = s.calls ++ [c]) (caller : c.caller = s.callers)
      (callers : s'.callers = s.callers + 1)
      (asks : st.asks? = some c.label ∨ c.continuation.isSome = false) (stays : st.drops? = none)
  | dropped {label : String} (drops : st.drops? = some label)
      (calls : s' = { s with calls := s.calls.filter (·.label != label) })

theorem SameCalls.of_eq (hc : s'.calls = s.calls) (hn : s'.callers = s.callers) :
    SameCalls s s' :=
  ⟨congrArg (List.map Call.entry) hc, hn⟩

theorem withHandle_enrols {st : Step} (s : Session) (name : String) {f : Handle → Session}
    (hst : st.drops? = none) (hf : ∀ h, Enrols s st (f h)) :
    Enrols s st (s.withHandle name f).2.1 := by
  unfold withHandle
  split
  · exact hf _
  · exact .same rfl rfl hst

theorem openLink_calls (name : String) (role : Role) (config : Link.Config) (s : Session) :
    (openLink name role config s).1.calls = s.calls := rfl

theorem openAt_enrols {st : Step} (hst : st.drops? = none) (name : String) (role : Role)
    (e : Hub.Endpoint) (address : Except Hub.Misaddressed Address) (s : Session) :
    Enrols s st (s.openAt name role e address).2.1 := by
  unfold openAt
  split
  · exact .same rfl rfl hst
  · exact .same (openLink_calls ..) rfl hst

/-- A step makes one call, drops those of a label, or leaves them alone. -/
theorem take_enrols (s : Session) (st : Step) : Enrols s st (s.take st).2.1 := by
  cases st with
  | connect name url verbose delay =>
    simp only [take]
    split
    · exact .same rfl rfl rfl
    · exact .same (openLink_calls ..) rfl rfl
  | clone name | subscribe name => exact withHandle_enrols s name rfl fun _ => .same rfl rfl rfl
  | send name label r =>
    exact withHandle_enrols s name rfl fun h => .made rfl rfl rfl (.inr rfl) rfl
  | abandon label => exact .dropped rfl rfl
  | watch name tag =>
    simp only [take]
    split
    · exact .same rfl rfl rfl
    · split <;> exact .same rfl rfl rfl
  | openHub name e => exact openAt_enrols rfl ..
  | openInstance name e suffix => exact openAt_enrols rfl ..
  | askHub name label c opened =>
    refine withHandle_enrols s name rfl fun h => ?_
    split
    · split <;> exact .made rfl rfl rfl (.inl rfl) rfl
    · exact .same rfl rfl rfl
  | askInstance name label c =>
    exact withHandle_enrols s name rfl fun h => .made rfl rfl rfl (.inl rfl) rfl
  | transport i event =>
    simp only [take]
    split
    · exact .same rfl rfl rfl
    · split <;> exact .same rfl rfl rfl
  | drop | detach | advance | connections | wait => exact .same rfl rfl rfl

/-- New calls come with new callers. -/
theorem Enrols.enrolled {st : Step} (h : Enrols s st s') (he : Enrolled s) : Enrolled s' := by
  cases h with
  | same calls callers => exact (SameCalls.of_eq calls callers).enrolled he
  | made calls caller callers => exact he.concat calls caller callers
  | dropped _ calls =>
    subst calls
    exact he.of_sublist (List.filter_sublist.map _) rfl

theorem Enrolled.step (h : Enrolled s) (held : Bool) (st : Step) :
    Enrolled (s.step held st).2.1 := by
  have htaken := (take_enrols s st).enrolled h
  cases held with
  | true => exact htaken
  | false =>
    simp only [Session.step, Bool.false_eq_true, ↓reduceIte, Change.andThen_fst]
    have hsettled := (settleDown_sameCalls (s.take st).2.1).enrolled htaken
    exact hsettled.of_sublist (tell_roll _) (tell_callers _)

theorem Enrolled.run (h : Enrolled s) (sts : List (Bool × Step)) : Enrolled (s.run sts).1 := by
  induction sts generalizing s with
  | nil => exact h
  | cons st sts ih => exact ih (h.step st.1 st.2)

/-- In every session each call has a caller of its own. -/
theorem run_enrolled (sts : List (Bool × Step)) : Enrolled (Session.run {} sts).1 :=
  have hempty : Enrolled {} := ⟨fun _ he => absurd he List.not_mem_nil, List.nodup_nil⟩
  hempty.run sts

end Switchboard.Session
