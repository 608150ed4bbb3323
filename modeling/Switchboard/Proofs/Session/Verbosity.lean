import Switchboard.Proofs.Link.Hushed
import Switchboard.Proofs.Session.Blind

namespace Switchboard

/-- The same place, with links that do not log what they do. -/
def Hub.Endpoint.hushed (e : Hub.Endpoint) : Hub.Endpoint := { e with verbose := false }

/-- The same sequel, without lines as a verbose link logs them. -/
def Hub.Sequel.hushed (q : Hub.Sequel) : Hub.Sequel :=
  { q with log := q.log.filter (!·.isInfo) }

namespace Session

open Link (Caller Effect Input)

/-! ### Without a word -/

def Note.isInfo : Note → Bool
  | .logged line => line.isInfo
  | _ => false

def muted (notes : List Note) : List Note := notes.filter (!·.isInfo)

def Node.hushed (n : Node) : Node := { n with link := n.link.hushed }

def Role.hushed : Role → Role
  | .hub e => .hub e.hushed
  | role => role

def Handle.hushed (h : Handle) : Handle := { h with role := h.role.hushed }

def Continuation.hushed (k : Continuation) : Continuation :=
  { k with sequel := k.sequel.hushed, verbose := false }

def Call.hushed (c : Call) : Call :=
  { c with continuation := c.continuation.map Continuation.hushed }

/-- The session as it would be had no link been verbose, and none that is yet to come. -/
def hushed (s : Session) : Session :=
  { s with
    nodes := s.nodes.map Node.hushed
    handles := s.handles.map Handle.hushed
    calls := s.calls.map Call.hushed }

/-- A change as that of a hushed session. -/
def Change.hushed (c : Change) : Change := (c.1.hushed, muted c.2)

variable {s : Session} {c c' : Change} {l : LinkIndex}

@[simp] theorem muted_nil : muted [] = [] := rfl

@[simp] theorem muted_append (xs ys : List Note) : muted (xs ++ ys) = muted xs ++ muted ys :=
  List.filter_append ..

theorem muted_of_plain {notes : List Note} (h : ∀ note ∈ notes, note.isInfo = false) :
    muted notes = notes :=
  List.filter_eq_self.mpr fun note hn => by simp [h note hn]

/-! ### Changes in a row -/

theorem andThen_hushed {f f' : Session → Change} (hc : c' = Change.hushed c)
    (hf : f' c.1.hushed = Change.hushed (f c.1)) :
    c'.andThen f' = Change.hushed (c.andThen f) := by
  subst hc
  simp only [Change.andThen, Change.hushed, hf, muted_append]

theorem each_hushed {f f' : α → Session → Change} {xs : List α}
    (hf : ∀ x ∈ xs, ∀ s, f' x s.hushed = Change.hushed (f x s)) (s : Session) :
    each xs f' s.hushed = Change.hushed (each xs f s) := by
  induction xs generalizing s with
  | nil => rfl
  | cons x xs ih =>
    obtain ⟨hx, hxs⟩ := List.forall_mem_cons.mp hf
    rw [each_cons, each_cons]
    exact andThen_hushed (hx s) (ih hxs _)

/-! ### What a link does -/

theorem node_hushed (s : Session) (l : LinkIndex) :
    s.hushed.nodes[l]? = s.nodes[l]?.map Node.hushed :=
  List.getElem?_map

theorem setNode_hushed (s : Session) (l : LinkIndex) {f f' : Node → Node}
    (hf : ∀ n, f' n.hushed = (f n).hushed) : s.hushed.setNode l f' = (s.setNode l f).hushed := by
  simp only [setNode, hushed]
  congr 1
  apply List.ext_getElem?
  intro j
  simp only [List.getElem?_modify, List.getElem?_map]
  cases s.nodes[j]? with
  | none => rfl
  | some n => by_cases h : l = j <;> simp [h, hf]

theorem holds_hushed (s : Session) (l : LinkIndex) : s.hushed.holds l = s.holds l := by
  simp only [holds, hushed, List.any_map]
  congr 2
  funext c
  simp only [Function.comp, Call.hushed, Option.isSome_map]
  rfl

theorem settle_hushed (s : Session) (caller : Caller) (outcome : Link.Outcome) :
    s.hushed.settle caller outcome = (s.settle caller outcome).hushed := by
  simp only [settle, hushed, List.map_map]
  congr 1
  refine List.map_congr_left fun c _ => ?_
  have hsettle : c.hushed.settle outcome = (c.settle outcome).hushed := by
    obtain ⟨_, _, _, continuation, progress⟩ := c
    cases continuation <;> cases progress <;> rfl
  have hcaller : c.hushed.caller = c.caller := rfl
  simp only [Function.comp, hcaller, hsettle]
  split <;> rfl

/-- An effect that is no line of a verbose link is carried out the same. -/
theorem perform_hushed {e : Effect} (he : e.isInfo = false) (l : LinkIndex) (s : Session) :
    perform l e s.hushed = Change.hushed (perform l e s) := by
  cases e with
  | connect | notify => rfl
  | settle t => exact congrArg (·, []) (settle_hushed ..)
  | forget caller => exact congrArg (·, []) (settle_hushed ..)
  | publish status => exact congrArg (·, []) (setNode_hushed s l fun _ => rfl)
  | log line =>
    have hline : line.isInfo = false := he
    simp [perform, Change.hushed, muted, Note.isInfo, hline]
  | send epoch id text =>
    have hsocket : s.hushed.socketOf? l epoch = s.socketOf? l epoch := rfl
    simp only [perform, hsocket]
    split
    · rfl
    · split <;> rfl
  | close epoch =>
    have hsocket : s.hushed.socketOf? l epoch = s.socketOf? l epoch := rfl
    simp only [perform, hsocket]
    split
    · rfl
    · simp only [Change.hushed]
      split <;> rfl

/-- The lines of a verbose link are all that a hushed session does without. -/
theorem each_perform_hushed (l : LinkIndex) (es : List Effect) (s : Session) :
    each (Link.muted es) (perform l) s.hushed = Change.hushed (each es (perform l) s) := by
  induction es generalizing s with
  | nil => rfl
  | cons e es ih =>
    rw [each_cons]
    cases he : e.isInfo with
    | false =>
      rw [Link.muted_cons he, each_cons]
      exact andThen_hushed (perform_hushed he l s) (ih _)
    | true =>
      have hmuted : Link.muted (e :: es) = Link.muted es :=
        List.filter_cons_of_neg (by simp [he])
      cases e with
      | log line =>
        have hline : line.isInfo = true := he
        rw [hmuted, ih]
        simp [perform, Change.andThen, Change.hushed, muted, Note.isInfo, hline]
      | _ => cases he

theorem carryOut_hushed (l : LinkIndex) (r : Link.Reaction) (s : Session) :
    carryOut l (Link.hush r) s.hushed = Change.hushed (carryOut l r s) := by
  have hset : s.hushed.setNode l (fun n => { n with link := r.1.hushed }) =
      (s.setNode l fun n => { n with link := r.1 }).hushed := setNode_hushed s l fun _ => rfl
  simp only [carryOut, Link.hush, hset, each_perform_hushed]

theorem deliver_hushed (l : LinkIndex) (i : Input) (s : Session) :
    deliver l i s.hushed = Change.hushed (deliver l i s) := by
  simp only [deliver, node_hushed]
  cases s.nodes[l]? with
  | none => rfl
  | some n =>
    have hreaction : n.hushed.link.handle s.hushed.now i = Link.hush (n.link.handle s.now i) :=
      n.link.handle_hushed s.now i
    simp only [Option.map_some, hreaction, carryOut_hushed]

theorem drain_hushed (l : LinkIndex) (s : Session) :
    drain l s.hushed = Change.hushed (drain l s) := by
  simp only [drain, node_hushed]
  cases s.nodes[l]? with
  | none => rfl
  | some n =>
    have hempty : s.hushed.setNode l (fun n => { n with inbox := [] }) =
        (s.setNode l fun n => { n with inbox := [] }).hushed := setNode_hushed s l fun _ => rfl
    simp only [Option.map_some, hempty]
    exact each_hushed (fun i _ s => deliver_hushed l i s) _

theorem retire_hushed (l : LinkIndex) (s : Session) :
    retire l s.hushed = Change.hushed (retire l s) := by
  simp only [retire, node_hushed, holds_hushed]
  cases s.nodes[l]? with
  | none => rfl
  | some n =>
    have hstopped : n.hushed.stopped = n.stopped := rfl
    have hset : s.hushed.setNode l (fun n => { n with stopped := true }) =
        (s.setNode l fun n => { n with stopped := true }).hushed := setNode_hushed s l fun _ => rfl
    have hstop : n.hushed.link.stop = Link.muted n.link.stop := n.link.stop_hushed
    simp only [Option.map_some, hstopped, hset, hstop, each_perform_hushed]
    split <;> rfl

theorem ring_hushed (l : LinkIndex) (s : Session) : ring l s.hushed = Change.hushed (ring l s) := by
  simp only [ring, node_hushed]
  cases s.nodes[l]? with
  | none => rfl
  | some n =>
    have hstopped : n.hushed.stopped = n.stopped := rfl
    have hreaction : n.hushed.link.tick s.hushed.now = Link.hush (n.link.tick s.now) :=
      n.link.tick_hushed s.now
    simp only [Option.map_some, hstopped, hreaction, carryOut_hushed]
    split <;> rfl

/-- Links are due at the same times, and in the same order. -/
theorem due_hushed (s : Session) : s.hushed.due = s.due := by
  simp only [due, hushed, List.zipIdx_map, List.filterMap_map]
  rfl

/-! ### Links that are added -/

theorem addLink_hushed (config : Link.Config) (s : Session) :
    addLink config.hushed s.hushed = Change.hushed (addLink config s) := by
  have hadded : { s.hushed with
        nodes := s.hushed.nodes ++ [({ link := (Link.start config).1.hushed } : Node)] } =
      hushed { s with nodes := s.nodes ++ [{ link := (Link.start config).1 }] } := by
    simp only [hushed, List.map_append, List.map_cons, List.map_nil]
    rfl
  have hindex : s.hushed.nodes.length = s.nodes.length := by simp [hushed]
  have hall := each_perform_hushed s.nodes.length (Link.start config).2
    { s with nodes := s.nodes ++ [{ link := (Link.start config).1 }] }
  rw [← hadded] at hall
  simp only [addLink, Link.start_hushed, Link.hush, hindex]
  exact hall

theorem name_hushed (h : Handle) (s : Session) : s.hushed.name h.hushed = (s.name h).hushed := by
  simp only [name, hushed, List.map_append, List.filter_map]
  rfl

theorem openLink_hushed (name : String) (role : Role) (config : Link.Config) (s : Session) :
    openLink name role.hushed config.hushed s.hushed =
      Change.hushed (openLink name role config s) := by
  have hindex : s.hushed.nodes.length = s.nodes.length := by simp [hushed]
  simp only [openLink, addLink_hushed, hindex]
  exact congrArg (·, _) (name_hushed ⟨name, s.nodes.length, role⟩ (addLink config s).1)

/-! ### Calls that go on -/

theorem finish_hushed (caller : Caller) (result : Result) (s : Session) :
    s.hushed.finish caller result = (s.finish caller result).hushed := by
  simp only [finish, hushed, List.map_map]
  congr 1
  refine List.map_congr_left fun c _ => ?_
  have hcaller : c.hushed.caller = c.caller := rfl
  simp only [Function.comp, hcaller]
  split <;> rfl

theorem muted_logged (lines : List Link.LogLine) :
    muted (lines.map .logged) = (lines.filter (!·.isInfo)).map .logged := by
  simp only [muted, List.filter_map]
  rfl

/-- A call goes on the same in a hushed session, and the link it opens is hushed. -/
theorem goOn_hushed (caller : Caller) (k : Continuation) (outcome : Link.Outcome) (s : Session) :
    goOn caller k.hushed outcome s.hushed = Change.hushed (goOn caller k outcome s) := by
  have hanswer : k.hushed.sequel.answer outcome = k.sequel.answer outcome := by
    cases outcome <;> rfl
  have hopens : k.hushed.sequel.opens = k.sequel.opens := rfl
  have hlog : k.hushed.sequel.log = k.sequel.log.filter (!·.isInfo) := rfl
  simp only [goOn, hanswer, finish_hushed, hopens, hlog]
  cases outcome with
  | error failure => rfl
  | ok v =>
    cases k.sequel.opens with
    | none => simp only [Change.hushed, muted_append, muted_logged, muted_nil]
    | some a =>
      have hopened := openLink_hushed k.name .member { url := a.text, verbose := k.verbose }
        (s.finish caller (.answer (k.sequel.answer (.ok v))))
      have hall := congrArg (fun c : Change =>
        (c.1, (k.sequel.log.filter (!·.isInfo)).map Note.logged ++ c.2)) hopened
      refine hall.trans ?_
      simp only [Change.hushed, muted_append, muted_logged]

theorem resume_hushed (caller : Caller) (s : Session) :
    resume caller s.hushed = Change.hushed (resume caller s) := by
  have hdue : (s.hushed.calls.find? (·.caller == caller)).bind Call.due? =
      ((s.calls.find? (·.caller == caller)).bind Call.due?).map fun d => (d.1.hushed, d.2) := by
    have hcaller : (fun c : Call => c.caller == caller) ∘ Call.hushed =
        fun c => c.caller == caller := rfl
    simp only [hushed, List.find?_map, hcaller]
    cases s.calls.find? (·.caller == caller) with
    | none => rfl
    | some c =>
      obtain ⟨_, _, _, continuation, progress⟩ := c
      cases continuation <;> cases progress <;> rfl
  rw [resume_eq, resume_eq, hdue]
  cases (s.calls.find? (·.caller == caller)).bind Call.due? with
  | none => rfl
  | some due => exact goOn_hushed caller due.1 due.2 s

theorem resumeAll_hushed (s : Session) : resumeAll s.hushed = Change.hushed (resumeAll s) :=
  each_hushed (fun caller _ s => resume_hushed caller s) { s with woken := [] }

/-! ### Running -/

theorem length_hushed (s : Session) : s.hushed.nodes.length = s.nodes.length := by simp [hushed]

theorem retireAll_hushed (s : Session) : each (List.range s.hushed.nodes.length) retire s.hushed =
    Change.hushed (each (List.range s.nodes.length) retire s) := by
  rw [length_hushed]
  exact each_hushed (fun l _ s => retire_hushed l s) s

theorem drainAll_hushed (s : Session) : each (List.range s.hushed.nodes.length) drain s.hushed =
    Change.hushed (each (List.range s.nodes.length) drain s) := by
  rw [length_hushed]
  exact each_hushed (fun l _ s => drain_hushed l s) s

theorem ringAll_hushed (s : Session) :
    each s.hushed.due ring s.hushed = Change.hushed (each s.due ring s) := by
  rw [due_hushed]
  exact each_hushed (fun l _ s => ring_hushed l s) s

/-- A hushed session runs the same until it is idle. -/
theorem settleDown_hushed (s : Session) : settleDown s.hushed = Change.hushed (settleDown s) := by
  simp only [settleDown]
  refine andThen_hushed ?_ (retireAll_hushed _)
  refine andThen_hushed ?_ (resumeAll_hushed _)
  refine andThen_hushed ?_ (ringAll_hushed _)
  exact andThen_hushed (drainAll_hushed s) (retireAll_hushed _)

theorem watchedNotes_hushed (s : Session) : s.hushed.watchedNotes = s.watchedNotes := by
  simp only [watchedNotes]
  congr 1
  funext w
  rw [node_hushed]
  cases s.nodes[w.link]? with
  | none => rfl
  | some n =>
    have hstopped : n.hushed.stopped = n.stopped := rfl
    have hpublished : n.hushed.published = n.published := rfl
    simp only [Option.map_some, Option.filter_some, hstopped, hpublished]
    split <;> rfl

/-- Callers are told, and those who watch see, whether links are verbose or not. -/
theorem muted_told (s : Session) : muted (tell s).2 = (tell s).2 := by
  refine muted_of_plain fun note hn => ?_
  rw [tell_notes, List.mem_append, List.mem_filterMap] at hn
  rcases hn with ⟨c, -, hc⟩ | hn
  · obtain ⟨t, -, rfl⟩ := Option.map_eq_some_iff.mp hc
    rfl
  · obtain ⟨w, -, hw⟩ := List.mem_filterMap.mp hn
    obtain ⟨n, -, rfl⟩ := Option.map_eq_some_iff.mp hw
    rfl

theorem tell_hushed (s : Session) : tell s.hushed = Change.hushed (tell s) := by
  refine Prod.ext ?_ ?_
  · have hdone : (fun c : Call => !c.isDone) ∘ Call.hushed = fun c => !c.isDone := rfl
    simp only [tell, Change.hushed, hushed, List.filter_map, hdone]
    congr 1
    refine List.map_congr_left fun w _ => ?_
    rw [List.getElem?_map]
    cases s.nodes[w.link]? with
    | none => rfl
    | some n =>
      have hstopped : n.hushed.stopped = n.stopped := rfl
      have hpublished : n.hushed.published = n.published := rfl
      simp only [Option.map_some, Option.filter_some, hstopped, hpublished]
      by_cases hnews : (!n.stopped && decide (w.seen < n.published)) = true
      · simp [hnews, hpublished]
      · simp [hnews]
  · have htelling : (fun c => (Call.telling? c).map fun t => Note.settled t.1 t.2) ∘ Call.hushed =
        fun c => c.telling?.map fun t => .settled t.1 t.2 := rfl
    refine Eq.trans ?_ (muted_told s).symm
    have hcalls : s.hushed.calls = s.calls.map Call.hushed := rfl
    simp only [tell_notes, watchedNotes_hushed, hcalls, List.filterMap_map, htelling]

/-! ### Steps -/

/-- The step with every link it may bring about verbose, or none. -/
def Step.saying (verbose : Bool) : Step → Step
  | .connect name url _ delay => .connect name url verbose delay
  | .openHub name e => .openHub name { e with verbose }
  | .openInstance name e suffix => .openInstance name { e with verbose } suffix
  | st => st

/-- Nothing that is asked of a hub or an instance is logged because of being verbose. -/
theorem controlPlan_hushed {p : Hub.Plan} {c : Hub.ControlCall} {e : Hub.Endpoint}
    (h : c.plan e = .ok p) : p.sequel.hushed = p.sequel := by
  have hmapped : ∀ (address : Except Hub.Misaddressed Address) (plan : Address → Hub.Plan),
      (∀ a, (plan a).sequel.hushed = (plan a).sequel) → address.map plan = .ok p →
      p.sequel.hushed = p.sequel := by
    rintro (_ | a) plan hplan hp
    · cases hp
    · cases hp
      exact hplan a
  cases c with
  | list | ping => cases h; rfl
  | start suffix => exact hmapped _ (Hub.startPlan · false) (fun _ => rfl) h
  | stop suffix => exact hmapped _ Hub.stopPlan (fun _ => rfl) h
  | run suffix => exact hmapped _ (Hub.startPlan · true) (fun _ => rfl) h

theorem instancePlan_hushed (c : Hub.InstanceCall) : c.plan.sequel.hushed = c.plan.sequel := by
  cases c <;> rfl

theorem post_hushed (s : Session) (l : LinkIndex) (i : Input) :
    s.hushed.post l i = (s.post l i).hushed :=
  setNode_hushed s l fun _ => rfl

theorem call_hushed (s : Session) (label : String) (l : LinkIndex) (request : Message.Request)
    (continuation : Option Continuation) :
    s.hushed.call label l request (continuation.map Continuation.hushed) =
      (s.call label l request continuation).hushed := by
  have hcallers : s.hushed.callers = s.callers := rfl
  simp only [call, post_hushed, hcallers]
  simp [hushed, post, setNode, Call.hushed]

theorem callInVain_hushed (s : Session) (label : String) (l : LinkIndex) (why : Hub.Misaddressed) :
    s.hushed.callInVain label l why = (s.callInVain label l why).hushed := by
  simp [callInVain, hushed, Call.hushed]

def quieted (a : Return × Change) : Return × Change := (a.1, Change.hushed a.2)

theorem handle?_hushed (s : Session) (name : String) :
    s.hushed.handle? name = (s.handle? name).map Handle.hushed := by
  have hname : (fun h : Handle => h.name == name) ∘ Handle.hushed = fun h => h.name == name := rfl
  simp only [handle?, hushed, List.find?_map, hname]

theorem withHandle_hushed {name : String} {f f' : Handle → Session}
    (hf : ∀ h, f' h.hushed = (f h).hushed) :
    s.hushed.withHandle name f' = quieted (s.withHandle name f) := by
  simp only [withHandle, handle?_hushed]
  cases s.handle? name with
  | none => rfl
  | some h => exact congrArg (fun t => (Return.nothing, t, [])) (hf h)

theorem openAt_hushed (s : Session) (name : String) (role : Role) (e : Hub.Endpoint)
    (address : Except Hub.Misaddressed Address) :
    s.hushed.openAt name role.hushed e.hushed address = quieted (s.openAt name role e address) := by
  cases address with
  | error why => rfl
  | ok a =>
    exact congrArg (Return.address a.text, ·)
      (openLink_hushed name role { url := a.text, verbose := e.verbose } s)

/-- A step that brings about no verbose link is taken the same by a hushed session. -/
theorem take_hushed (s : Session) (st : Step) :
    s.hushed.take (st.saying false) = quieted (s.take st) := by
  cases st with
  | connect name url verbose delay =>
    simp only [Step.saying, take]
    cases Address.parse url with
    | error fault => rfl
    | ok a =>
      exact congrArg (Return.address a.text, ·) (openLink_hushed name .client
        { url := a.text, reconnectDelay := delay, verbose } s)
  | clone name copy => exact withHandle_hushed fun h => name_hushed { h with name := copy } s
  | drop name =>
    have hname : (fun h : Handle => h.name != name) ∘ Handle.hushed =
        fun h => h.name != name := rfl
    simp only [Step.saying, take, quieted, Change.hushed, hushed, List.filter_map, hname,
      muted_nil]
  | send name label request =>
    exact withHandle_hushed fun h => call_hushed s label h.link request none
  | abandon label =>
    have hlabel : (fun c : Call => c.label != label) ∘ Call.hushed =
        fun c => c.label != label := rfl
    simp only [Step.saying, take, quieted, Change.hushed, hushed, List.filter_map, hlabel,
      muted_nil]
  | subscribe name tag => exact withHandle_hushed fun h => post_hushed s h.link _
  | watch name tag =>
    simp only [Step.saying, take, handle?_hushed]
    cases s.handle? name with
    | none => rfl
    | some h =>
      have hlink : h.hushed.link = h.link := rfl
      simp only [Option.map_some, hlink, node_hushed]
      cases s.nodes[h.link]? <;> rfl
  | openHub name e => exact openAt_hushed s name (.hub e) e e.control
  | openInstance name e suffix => exact openAt_hushed s name .member e (e.instanceAt suffix)
  | askHub name label c opened =>
    refine withHandle_hushed fun h => ?_
    obtain ⟨_, l, role⟩ := h
    cases role with
    | client | member => rfl
    | hub e =>
      have hplan : c.plan e.hushed = c.plan e := rfl
      simp only [Handle.hushed, Role.hushed, hplan]
      cases hp : c.plan e with
      | error why => exact callInVain_hushed s label l why
      | ok p =>
        have hall := call_hushed s label l p.request (some ⟨p.sequel, opened, e.verbose⟩)
        rwa [Option.map_some, Continuation.hushed, controlPlan_hushed hp] at hall
  | askInstance name label c =>
    refine withHandle_hushed fun h => ?_
    have hall := call_hushed s label h.link c.plan.request (some ⟨c.plan.sequel, "", false⟩)
    rwa [Option.map_some, Continuation.hushed, instancePlan_hushed] at hall
  | transport i event =>
    have hsocket : s.hushed.sockets[i]? = s.sockets[i]? := rfl
    simp only [Step.saying, take, hsocket]
    cases s.sockets[i]? with
    | none => rfl
    | some socket =>
      simp only [holds_hushed, post_hushed]
      split <;> rfl
  | detach | advance | connections | wait => rfl

theorem step_hushed (s : Session) (held : Bool) (st : Step) :
    s.hushed.step held (st.saying false) = quieted (s.step held st) := by
  cases held with
  | true => exact take_hushed s st
  | false =>
    have hsettled : (Change.hushed (s.take st).2).andThen settleDown =
        Change.hushed ((s.take st).2.andThen settleDown) := andThen_hushed rfl (settleDown_hushed _)
    have htold := andThen_hushed hsettled (tell_hushed _)
    simp only [step, take_hushed, quieted, Bool.false_eq_true, if_false, htold]

/-! ### Runs -/

def View.muted (v : View) : View := { v with notes := Session.muted v.notes }

theorem statuses_hushed (s : Session) : s.hushed.statuses = s.statuses := by
  simp only [statuses, node_hushed, Option.map_map]
  simp only [hushed, List.filterMap_map]
  rfl

def saying (verbose : Bool) (sts : List (Bool × Step)) : List (Bool × Step) :=
  sts.map fun st => (st.1, st.2.saying verbose)

theorem Step.saying_saying (v w : Bool) (st : Step) : (st.saying w).saying v = st.saying v := by
  cases st <;> rfl

theorem saying_saying (v w : Bool) (sts : List (Bool × Step)) :
    saying v (saying w sts) = saying v sts := by
  simp only [saying, List.map_map, Function.comp_def, Step.saying_saying]

/-- Step by step a hushed session shows what the session does, without the lines of verbose links.
-/
theorem views_hushed (s : Session) (sts : List (Bool × Step)) :
    views s.hushed (saying false sts) = (views s sts).map View.muted := by
  induction sts generalizing s with
  | nil => rfl
  | cons st sts ih =>
    simp only [saying] at ih
    simp only [saying, List.map_cons, views, step_hushed, quieted, Change.hushed, ih,
      statuses_hushed]
    rfl

theorem run_hushed (s : Session) (sts : List (Bool × Step)) :
    s.hushed.run (saying false sts) = Change.hushed (s.run sts) := by
  induction sts generalizing s with
  | nil => rfl
  | cons st sts ih =>
    have hstep := congrArg Prod.snd (step_hushed s st.1 st.2)
    exact andThen_hushed hstep (ih _)

theorem View.plain_of_muted {v : View} {note : Note} (h : note ∈ v.muted.notes) :
    note.isInfo = false := by
  simpa using (List.mem_filter.mp h).2

/-- The same steps, taken once with every link verbose and once with none: step by step they return
the same and lead to the same statuses, and the notes of the verbose run are those of the other with
lines of the level `info` put in, of which the other has none. The sessions they end in differ in
which links are verbose. -/
theorem verbosity_shows_in_info_lines_only (sts : List (Bool × Step)) :
    (views {} (saying true sts)).map View.muted = views {} (saying false sts) ∧
      (run {} (saying true sts)).1.hushed = (run {} (saying false sts)).1 ∧
      ∀ view ∈ views {} (saying false sts), ∀ note ∈ view.notes, note.isInfo = false := by
  have hviews : views {} (saying false sts) = (views {} (saying true sts)).map View.muted := by
    rw [← saying_saying false true]
    exact views_hushed {} _
  have hrun : run {} (saying false sts) = Change.hushed (run {} (saying true sts)) := by
    rw [← saying_saying false true]
    exact run_hushed {} _
  refine ⟨hviews.symm, (congrArg Prod.fst hrun).symm, fun view hview note hnote => ?_⟩
  rw [hviews] at hview
  obtain ⟨v, -, rfl⟩ := List.mem_map.mp hview
  exact View.plain_of_muted hnote

end Session

end Switchboard
