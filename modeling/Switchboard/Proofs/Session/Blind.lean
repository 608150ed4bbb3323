import Switchboard.Proofs.Session.Callers

/-!
Changes that are blind to some callers. A session does the same whether their calls are still there
or not, as long as these hold no link, and it tells those calls nothing before the end of a step.
-/

namespace Switchboard.Session

open Link (Caller Effect Input)

variable {s s' : Session} {gone : List Caller} {f g : Session → Change}

def without (gone : List Caller) (s : Session) : Session :=
  { s with calls := s.calls.filter fun c => c.caller ∉ gone }

/-- Callers who may leave: they have come, and their calls do not go on once they are settled. -/
structure Free (gone : List Caller) (s : Session) : Prop where
  come : ∀ x ∈ gone, x < s.callers
  plain : ∀ e ∈ s.roll, e.1 ∈ gone → e.2.2 = false

def Note.telling? : Note → Option (String × Result)
  | .settled label result => some (label, result)
  | _ => none

def Quiet (notes : List Note) : Prop := ∀ note ∈ notes, note.telling? = none

theorem quiet_nil : Quiet [] := List.forall_mem_nil _

theorem Free.nobody (s : Session) : Free [] s :=
  ⟨List.forall_mem_nil _, fun _ _ h => absurd h List.not_mem_nil⟩

/-- A change that is the same with some callers as without them, and tells nobody. -/
structure Blind (gone : List Caller) (s : Session) (f : Session → Change) : Prop where
  calls : SameCalls s (f s).1
  same : f (s.without gone) = ((f s).1.without gone, (f s).2)
  quiet : Quiet (f s).2

theorem SameCalls.free (h : SameCalls s s') (hf : Free gone s) : Free gone s' := by
  obtain ⟨hroll, hcallers⟩ := h
  exact ⟨hcallers ▸ hf.come, hroll ▸ hf.plain⟩

theorem Blind.nothing (h : f = fun s => (s, [])) : Blind gone s f := by
  subst h
  exact ⟨.refl s, rfl, quiet_nil⟩

theorem Blind.congr (h : Blind gone s f) (hs : g s = f s)
    (hw : g (s.without gone) = f (s.without gone)) : Blind gone s g where
  calls := hs ▸ h.calls
  same := by rw [hw, hs, h.same]
  quiet := hs ▸ h.quiet

theorem Blind.andThen (hf : Blind gone s f) (hg : Blind gone (f s).1 g) :
    Blind gone s fun s => (f s).andThen g where
  calls := hf.calls.trans hg.calls
  same := by simp only [Change.andThen, hf.same, hg.same]
  quiet note hn := (List.mem_append.mp hn).elim (hf.quiet note) (hg.quiet note)

theorem Blind.then (hf : Blind gone s f) (h : Free gone s)
    (hg : ∀ {t}, Free gone t → Blind gone t g) : Blind gone s fun s => (f s).andThen g :=
  hf.andThen (hg (hf.calls.free h))

theorem Blind.each {f : α → Session → Change} (h : Free gone s) (xs : List α)
    (hf : ∀ x s, Free gone s → Blind gone s (f x)) : Blind gone s (each xs f) := by
  induction xs generalizing s with
  | nil => exact .nothing rfl
  | cons x xs ih =>
    have hx := hf x s h
    have hall : each (x :: xs) f = fun s => (f x s).andThen (each xs f) :=
      funext fun s => each_cons x xs f s
    rw [hall]
    exact hx.andThen (ih (hx.calls.free h))

/-- A change that begins with one that calls have nothing to do with. -/
theorem Blind.behind {u : Session → Session} (hu : SameCalls s (u s))
    (hw : u (s.without gone) = (u s).without gone) (hf : Blind gone (u s) f) :
    Blind gone s fun s => f (u s) where
  calls := hu.trans hf.calls
  same := by rw [hw, hf.same]
  quiet := hf.quiet

theorem Call.settle_caller (c : Call) (outcome : Link.Outcome) :
    (c.settle outcome).caller = c.caller :=
  congrArg Prod.fst (c.settle_entry outcome)

theorem filter_map_calls {u : Call → Call} (hu : ∀ c, (u c).caller = c.caller) (cs : List Call) :
    (cs.map u).filter (fun c => c.caller ∉ gone) = (cs.filter fun c => c.caller ∉ gone).map u := by
  rw [List.filter_map]
  congr 2
  funext c
  simp only [Function.comp, hu]

/-- Settling the call of somebody who has left does nothing. -/
theorem settle_without (gone : List Caller) (s : Session) (caller : Caller)
    (outcome : Link.Outcome) :
    (s.without gone).settle caller outcome = (s.settle caller outcome).without gone := by
  simp only [settle, without]
  rw [filter_map_calls fun c => ?_]
  split
  · exact c.settle_caller outcome
  · rfl

theorem perform_blind (l : LinkIndex) (e : Effect) (s : Session) : Blind gone s (perform l e) where
  calls := perform_sameCalls l e s
  same := by
    cases e with
    | settle t => exact congrArg (·, []) (settle_without ..)
    | forget caller => exact congrArg (·, []) (settle_without ..)
    | connect | publish | notify | log => rfl
    | send epoch id text =>
      have hsocket : (s.without gone).socketOf? l epoch = s.socketOf? l epoch := rfl
      simp only [perform, hsocket]
      split
      · rfl
      · split <;> rfl
    | close epoch =>
      have hsocket : (s.without gone).socketOf? l epoch = s.socketOf? l epoch := rfl
      simp only [perform, hsocket]
      split <;> rfl
  quiet := by
    cases e with
    | settle | forget | connect | publish | notify | log => simp [perform, Quiet, Note.telling?]
    | send epoch id text =>
      simp only [perform]
      split
      · exact quiet_nil
      · split <;> simp [Quiet, Note.telling?]
    | close epoch =>
      simp only [perform]
      split
      · exact quiet_nil
      · split <;> simp [Quiet, Note.telling?]

/-- What a link does it does without looking at who is there to be told. -/
theorem performAll_blind (h : Free gone s) (l : LinkIndex) (es : List Effect) (u : Node → Node) :
    Blind gone s fun s => each es (perform l) (s.setNode l u) := by
  have hset : SameCalls s (s.setNode l u) := ⟨rfl, rfl⟩
  exact .behind hset rfl (.each (hset.free h) _ fun e t _ => perform_blind l e t)

theorem nothing_blind : Blind gone s fun s => (s, []) := .nothing rfl

theorem deliver_blind (h : Free gone s) (l : LinkIndex) (i : Input) :
    Blind gone s (deliver l i) := by
  have hnodes : (s.without gone).nodes[l]? = s.nodes[l]? := rfl
  cases hn : s.nodes[l]? with
  | none => exact nothing_blind.congr (by simp [deliver, hn]) (by simp [deliver, hnodes, hn])
  | some n =>
    have hall := performAll_blind h l (n.link.handle s.now i).2
      fun m => { m with link := (n.link.handle s.now i).1 }
    exact hall.congr (by simp only [deliver, hn]; rfl) (by simp only [deliver, hnodes, hn]; rfl)

theorem drain_blind (h : Free gone s) (l : LinkIndex) : Blind gone s (drain l) := by
  have hnodes : (s.without gone).nodes[l]? = s.nodes[l]? := rfl
  cases hn : s.nodes[l]? with
  | none => exact nothing_blind.congr (by simp [drain, hn]) (by simp [drain, hnodes, hn])
  | some n =>
    have hemptied : SameCalls s (s.setNode l fun n => { n with inbox := [] }) := ⟨rfl, rfl⟩
    have hall : Blind gone s fun s =>
        each n.inbox (deliver l) (s.setNode l fun n => { n with inbox := [] }) :=
      .behind hemptied rfl (.each (hemptied.free h) _ fun i t ht => deliver_blind ht l i)
    exact hall.congr (by simp only [drain, hn]) (by simp only [drain, hnodes, hn])

theorem Free.continuation (h : Free gone s) {c : Call} (hc : c ∈ s.calls) (hx : c.caller ∈ gone) :
    c.continuation = none := by
  have := h.plain c.entry (List.mem_map_of_mem hc) hx
  simpa [Call.entry] using this

/-- Whoever may leave holds no link by a call. -/
theorem holds_without (h : Free gone s) (l : LinkIndex) :
    (s.without gone).holds l = s.holds l := by
  simp only [holds, without, List.any_filter]
  congr 1
  rw [Bool.eq_iff_iff, List.any_eq_true, List.any_eq_true]
  refine exists_congr fun c => and_congr_right fun hc => ?_
  by_cases hx : c.caller ∈ gone
  · simp [h.continuation hc hx]
  · simp [hx]

/-- A link stops as if those who left had stayed, for they did not hold it. -/
theorem retire_blind (h : Free gone s) (l : LinkIndex) : Blind gone s (retire l) := by
  have hnodes : (s.without gone).nodes[l]? = s.nodes[l]? := rfl
  have hholds := holds_without h l
  cases hn : s.nodes[l]? with
  | none => exact nothing_blind.congr (by simp [retire, hn]) (by simp [retire, hnodes, hn])
  | some n =>
    cases hstays : n.stopped || s.holds l with
    | true =>
      exact nothing_blind.congr (by simp [retire, hn, hstays])
        (by simp [retire, hnodes, hn, hholds, hstays])
    | false =>
      have hall := performAll_blind h l n.link.stop fun m => { m with stopped := true }
      exact hall.congr (by simp [retire, hn, hstays]) (by simp [retire, hnodes, hn, hholds, hstays])

theorem ring_blind (h : Free gone s) (l : LinkIndex) : Blind gone s (ring l) := by
  have hnodes : (s.without gone).nodes[l]? = s.nodes[l]? := rfl
  cases hn : s.nodes[l]? with
  | none => exact nothing_blind.congr (by simp [ring, hn]) (by simp [ring, hnodes, hn])
  | some n =>
    cases hstopped : n.stopped with
    | true =>
      exact nothing_blind.congr (by simp [ring, hn, hstopped])
        (by simp [ring, hnodes, hn, hstopped])
    | false =>
      have hall := performAll_blind h l (n.link.tick s.now).2
        fun m => { m with link := (n.link.tick s.now).1 }
      exact hall.congr (by simp [ring, hn, hstopped]; rfl)
        (by simp [ring, hnodes, hn, hstopped]; rfl)

theorem addLink_blind (h : Free gone s) (config : Link.Config) :
    Blind gone s (addLink config) := by
  have hadded : SameCalls s { s with nodes := s.nodes ++ [{ link := (Link.start config).1 }] } :=
    ⟨rfl, rfl⟩
  have hall : Blind gone s fun t => each (Link.start config).2 (perform s.nodes.length)
      { t with nodes := t.nodes ++ [{ link := (Link.start config).1 }] } :=
    .behind hadded rfl (.each (hadded.free h) _ fun e t _ => perform_blind _ e t)
  exact hall.congr rfl rfl

theorem openLink_blind (h : Free gone s) (name : String) (role : Role) (config : Link.Config) :
    Blind gone s (openLink name role config) where
  calls := openLink_sameCalls name role config s
  same := by
    simp only [openLink, (addLink_blind h config).same]
    rfl
  quiet := (addLink_blind h config).quiet

theorem Blind.logged (h : Blind gone s f) (lines : List Link.LogLine) :
    Blind gone s fun s => ((f s).1, lines.map .logged ++ (f s).2) where
  calls := h.calls
  same := by rw [h.same]
  quiet note hn := by
    rcases List.mem_append.mp hn with hn | hn
    · obtain ⟨line, -, rfl⟩ := List.mem_map.mp hn
      rfl
    · exact h.quiet note hn

theorem finish_blind (caller : Caller) (result : Result) :
    Blind gone s fun s => (s.finish caller result, []) where
  calls := finish_sameCalls caller result s
  same := by
    simp only [finish, without]
    rw [filter_map_calls fun c => ?_]
    split <;> rfl
  quiet := quiet_nil

theorem goOn_blind (h : Free gone s) (caller : Caller) (k : Continuation)
    (outcome : Link.Outcome) : Blind gone s (goOn caller k outcome) := by
  have hdone : Blind gone s fun s => (s.finish caller (.answer (k.sequel.answer outcome)), []) :=
    finish_blind ..
  cases outcome with
  | error failure => exact hdone
  | ok v =>
    cases ho : k.sequel.opens with
    | none => exact (hdone.logged k.sequel.log).congr (by simp [goOn, ho]) (by simp [goOn, ho])
    | some a =>
      have hopened := hdone.andThen (openLink_blind (hdone.calls.free h) k.name .member
        { url := a.text, verbose := k.verbose })
      exact (hopened.logged k.sequel.log).congr (by simp [goOn, ho, Change.andThen])
        (by simp [goOn, ho, Change.andThen])

/-- The call of a caller who leaves would not have gone on. -/
theorem due?_without (h : Free gone s) (caller : Caller) :
    ((s.without gone).calls.find? (·.caller == caller)).bind Call.due? =
      (s.calls.find? (·.caller == caller)).bind Call.due? := by
  by_cases hx : caller ∈ gone
  · have hnone : (s.without gone).calls.find? (·.caller == caller) = none := by
      refine List.find?_eq_none.mpr fun c hc => ?_
      have hstays : c.caller ∉ gone := by simpa using (List.mem_filter.mp hc).2
      have hne : c.caller ≠ caller := fun he => hstays (he ▸ hx)
      simpa using hne
    rw [hnone]
    cases hc : s.calls.find? (·.caller == caller) with
    | none => rfl
    | some c =>
      have hcaller : c.caller = caller := by simpa using List.find?_some hc
      have hplain := h.continuation (List.mem_of_find?_eq_some hc) (hcaller ▸ hx)
      simp [Call.due?, hplain]
  · simp only [without, List.find?_filter]
    congr 2
    funext c
    by_cases hc : c.caller = caller <;> simp [hc, hx]

/-- A call goes on as if those who left had stayed; theirs would not have gone on. -/
theorem resume_blind (h : Free gone s) (caller : Caller) : Blind gone s (resume caller) := by
  have hfind := due?_without h caller
  cases hdue : (s.calls.find? (·.caller == caller)).bind Call.due? with
  | none => exact nothing_blind.congr (by rw [resume_eq, hdue]) (by rw [resume_eq, hfind, hdue])
  | some due =>
    exact (goOn_blind h caller due.1 due.2).congr (by rw [resume_eq, hdue])
      (by rw [resume_eq, hfind, hdue])

/-- Calls go on as if those who left had stayed. -/
theorem resumeAll_blind (h : Free gone s) : Blind gone s resumeAll := by
  have hawake : SameCalls s { s with woken := [] } := ⟨rfl, rfl⟩
  have hall : Blind gone s fun t => each s.woken resume { t with woken := [] } :=
    .behind hawake rfl (.each (hawake.free h) _ fun caller t ht => resume_blind ht caller)
  exact hall.congr rfl rfl

theorem retireAll_blind (h : Free gone s) :
    Blind gone s fun s => each (List.range s.nodes.length) retire s :=
  (Blind.each h (List.range s.nodes.length) fun l _ ht => retire_blind ht l).congr rfl rfl

theorem drainAll_blind (h : Free gone s) :
    Blind gone s fun s => each (List.range s.nodes.length) drain s :=
  (Blind.each h (List.range s.nodes.length) fun l _ ht => drain_blind ht l).congr rfl rfl

theorem ringAll_blind (h : Free gone s) : Blind gone s fun s => each s.due ring s :=
  (Blind.each h s.due fun l _ ht => ring_blind ht l).congr rfl rfl

/-- A session runs until it is idle as if those who left had stayed. -/
theorem settleDown_blind (h : Free gone s) : Blind gone s settleDown := by
  have hretired := (drainAll_blind h).then h retireAll_blind
  have hrung := hretired.then h ringAll_blind
  have hresumed := hrung.then h resumeAll_blind
  have hall := hresumed.then h retireAll_blind
  exact hall.congr (by simp only [settleDown]) (by simp only [settleDown])

def Call.telling? (c : Call) : Option (String × Result) :=
  match c.progress with
  | .done result => some (c.label, result)
  | _ => none

def Note.isSilent (note : Note) : Bool := note.telling?.isNone

def watchedNotes (s : Session) : List Note :=
  s.watches.filterMap fun w =>
    (s.nodes[w.link]?.filter fun n => !n.stopped && w.seen < n.published).map fun n =>
      .watched w.tag n.link.status

theorem watchedNotes_without (gone : List Caller) (s : Session) :
    (s.without gone).watchedNotes = s.watchedNotes := rfl

theorem tell_notes (s : Session) :
    (tell s).2 = (s.calls.filterMap fun c => c.telling?.map fun t => .settled t.1 t.2) ++
      s.watchedNotes := by
  simp only [tell, watchedNotes]
  congr 2
  funext c
  obtain ⟨_, _, _, _, progress⟩ := c
  cases progress <;> rfl

theorem watchedNotes_silent (s : Session) : Quiet s.watchedNotes := by
  intro note hn
  obtain ⟨w, -, hw⟩ := List.mem_filterMap.mp hn
  obtain ⟨n, -, rfl⟩ := Option.map_eq_some_iff.mp hw
  rfl

theorem filter_silent {notes : List Note} (h : Quiet notes) :
    notes.filter Note.isSilent = notes ∧ notes.filterMap Note.telling? = [] :=
  ⟨List.filter_eq_self.mpr fun note hn => by simp [Note.isSilent, h note hn],
    List.filterMap_eq_nil_iff.mpr h⟩

/-- Apart from tellings, nothing is shown at the end of a step but to those who watch. -/
theorem tell_silent (s : Session) : (tell s).2.filter Note.isSilent = s.watchedNotes := by
  rw [tell_notes, List.filter_append, (filter_silent s.watchedNotes_silent).1]
  have hnone : (s.calls.filterMap fun c => c.telling?.map fun t => Note.settled t.1 t.2).filter
      Note.isSilent = [] := by
    refine List.filter_eq_nil_iff.mpr fun note hn => ?_
    obtain ⟨c, -, hc⟩ := List.mem_filterMap.mp hn
    obtain ⟨t, -, rfl⟩ := Option.map_eq_some_iff.mp hc
    simp [Note.isSilent, Note.telling?]
  rw [hnone, List.nil_append]

/-- Exactly the calls that are done are told, each its result. -/
theorem tell_tellings (s : Session) :
    (tell s).2.filterMap Note.telling? = (s.calls.filter (·.isDone)).filterMap Call.telling? := by
  rw [tell_notes, List.filterMap_append, (filter_silent s.watchedNotes_silent).2, List.append_nil,
    List.filterMap_filterMap, List.filterMap_filter]
  congr 1
  funext c
  obtain ⟨_, _, _, _, progress⟩ := c
  cases progress <;> rfl

/-- Those who stay are told the same and leave the same behind. -/
theorem tell_without (gone : List Caller) (s : Session) :
    (tell (s.without gone)).1 = (tell s).1.without gone := by
  simp only [tell, without, List.filter_filter]
  congr 2
  funext c
  exact Bool.and_comm _ _

theorem call_without (h : Free gone s) (label : String) (l : LinkIndex) (r : Message.Request)
    (k : Option Continuation) :
    (s.without gone).call label l r k = (s.call label l r k).without gone := by
  have hnew : s.callers ∉ gone := fun hx => Nat.lt_irrefl _ (h.come _ hx)
  simp [call, without, post, setNode, List.filter_append, hnew]

theorem callInVain_without (h : Free gone s) (label : String) (l : LinkIndex)
    (why : Hub.Misaddressed) :
    (s.without gone).callInVain label l why = (s.callInVain label l why).without gone := by
  have hnew : s.callers ∉ gone := fun hx => Nat.lt_irrefl _ (h.come _ hx)
  simp [callInVain, without, List.filter_append, hnew]

def TakenAlike (gone : List Caller) (a b : Return × Change) : Prop :=
  a = (b.1, b.2.1.without gone, b.2.2)

theorem withHandle_alike (s : Session) (name : String) {f f' : Handle → Session}
    (hf : ∀ handle, f' handle = (f handle).without gone) :
    TakenAlike gone ((s.without gone).withHandle name f') (s.withHandle name f) := by
  have hhandle : (s.without gone).handle? name = s.handle? name := rfl
  simp only [TakenAlike, withHandle, hhandle]
  split
  · rw [hf]
  · rfl

theorem openAt_alike (h : Free gone s) (name : String) (role : Role) (e : Hub.Endpoint)
    (address : Except Hub.Misaddressed Address) :
    TakenAlike gone ((s.without gone).openAt name role e address)
      (s.openAt name role e address) := by
  unfold openAt
  split
  · rfl
  · rw [(openLink_blind h ..).same]
    rfl

/-- A step that drops nobody is taken as if those who left had stayed. -/
theorem take_alike (h : Free gone s) (st : Step) (hst : st.drops? = none) :
    TakenAlike gone ((s.without gone).take st) (s.take st) := by
  cases st with
  | connect name url verbose delay =>
    simp only [take]
    split
    · rfl
    · rw [(openLink_blind h ..).same]
      rfl
  | clone name => exact withHandle_alike s name fun _ => rfl
  | send name => exact withHandle_alike s name fun _ => call_without h ..
  | subscribe name => exact withHandle_alike s name fun _ => rfl
  | watch name tag =>
    have hhandle : (s.without gone).handle? name = s.handle? name := rfl
    simp only [take, hhandle]
    split
    · rfl
    · rename_i handle _
      have hnode : (s.without gone).nodes[handle.link]? = s.nodes[handle.link]? := rfl
      rw [hnode]
      split <;> rfl
  | openHub name e => exact openAt_alike h ..
  | openInstance name e suffix => exact openAt_alike h ..
  | askHub name label c opened =>
    refine withHandle_alike s name fun handle => ?_
    split
    · split
      · exact call_without h ..
      · exact callInVain_without h ..
    · rfl
  | askInstance name => exact withHandle_alike s name fun _ => call_without h ..
  | transport i event =>
    have hsocket : (s.without gone).sockets[i]? = s.sockets[i]? := rfl
    simp only [take, hsocket]
    split
    · rfl
    · rename_i socket _
      rw [holds_without h]
      split <;> rfl
  | abandon => cases hst
  | drop | detach | advance | connections | wait => rfl

theorem openLink_quiet (name : String) (role : Role) (config : Link.Config) (s : Session) :
    Quiet (openLink name role config s).2 :=
  (openLink_blind (.nobody s) name role config).quiet

theorem openAt_quiet (name : String) (role : Role) (e : Hub.Endpoint)
    (address : Except Hub.Misaddressed Address) (s : Session) :
    Quiet (s.openAt name role e address).2.2 := by
  unfold openAt
  split
  · exact quiet_nil
  · exact openLink_quiet _ _ _ s

theorem withHandle_quiet (s : Session) (name : String) (f : Handle → Session) :
    Quiet (s.withHandle name f).2.2 := by
  unfold withHandle
  split <;> exact quiet_nil

/-- Nobody is told before the session has run. -/
theorem take_quiet (s : Session) (st : Step) :
    Quiet (s.take st).2.2 := by
  cases st with
  | connect name url verbose delay =>
    simp only [take]
    split
    · exact quiet_nil
    · exact openLink_quiet _ _ _ s
  | clone | send | subscribe | askHub | askInstance => exact withHandle_quiet s _ _
  | watch name tag =>
    simp only [take]
    split
    · exact quiet_nil
    · split <;> exact quiet_nil
  | openHub | openInstance => exact openAt_quiet _ _ _ _ s
  | transport i event =>
    simp only [take]
    split <;> exact quiet_nil
  | drop | abandon | detach | advance | connections | wait => exact quiet_nil

end Switchboard.Session
