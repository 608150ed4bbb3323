import Switchboard.Proofs.Session.Lodged

namespace Switchboard.Session

open Link (Caller Effect Input Moment)
open Message (Id Request)

/-- A call under way: who made it and how it goes on, and the socket, epoch and id under which its
request is to be written. -/
structure Errand where
  caller : Caller
  label : String
  link : LinkIndex
  continuation : Continuation
  socket : SocketIndex
  epoch : Epoch
  id : Id
  request : Request

def Errand.call (w : Errand) : Call :=
  { caller := w.caller, label := w.label, link := w.link, continuation := some w.continuation }

def Errand.written (w : Errand) : Note := .sent w.socket (w.request.write w.id)

variable {w : Errand} {n n' : Node} {s s' : Session} {c : Change} {k : LinkIndex} {m : Moment}
  {i : Input}

/-- A session in which a call waits, and the link of the call as it is. The far side of its socket
is there. -/
structure Bides (w : Errand) (n : Node) (s : Session) : Prop where
  lodged : Lodged w.call n s
  socket : ∃ socket, s.socketOf? w.link w.epoch = some (w.socket, socket) ∧ socket.attached
  epoch : n.link.epoch = w.epoch

theorem Bides.balanced (h : Bides w n s) : Balanced s := h.lodged.balanced

theorem Bides.calls (h : Bides w n s) : s.callsOf w.caller = [w.call] := h.lodged.calls

theorem Bides.at (h : Bides w n s) :
    ∃ actual, s.nodes[w.link]? = some actual ∧ actual.core = n := h.lodged.at

theorem Bides.strange (h : Bides w n s) : ∀ m, m ≠ w.link → StrangerAt w.caller s m :=
  h.lodged.strange

theorem Bides.sound (h : Bides w n s) : n.link.Sound := h.lodged.sound

/-- A call that waits holds its link. -/
theorem Bides.holds (h : Bides w n s) : s.holds w.link = true := h.lodged.holds rfl rfl

/-- What another link does leaves a call and its link as they are. -/
theorem Aside.bides (h : Aside w.caller k s s') (hk : k ≠ w.link) (hs : Bides w n s)
    (hb : Balanced s') : Bides w n s' := by
  obtain ⟨socket, hsocket, hattached⟩ := hs.socket
  obtain ⟨socket', hsocket', hsame⟩ := h.sockets _ _ _ _ hsocket
  exact ⟨Aside.lodged (d := w.call) h hk hs.lodged hb, ⟨socket', hsocket', hsame ▸ hattached⟩,
    hs.epoch⟩

/-- What an effect shows is shown when all of them are carried out. -/
theorem mem_each_perform {x : Caller} {es : List Effect} (h : ∀ e ∈ es, wakes x e = false)
    {e : Effect} (he : e ∈ es) (k : LinkIndex) (s : Session) :
    ∃ t, Passes x s t ∧ ∀ note ∈ (perform k e t).2, note ∈ (each es (perform k) s).2 := by
  induction es generalizing s with
  | nil => cases he
  | cons e' es ih =>
    obtain ⟨hfirst, hes⟩ := List.forall_mem_cons.mp h
    have hpassed := perform_passes hfirst k s
    rw [each_cons]
    rcases List.mem_cons.mp he with rfl | he
    · exact ⟨s, .refl s, fun note hn => List.mem_append_left _ hn⟩
    · obtain ⟨t, ht, hnotes⟩ := ih hes he (perform k e' s).1
      exact ⟨t, hpassed.trans ht, fun note hn => List.mem_append_right _ (hnotes note hn)⟩

/-- The link of a call goes through a moment that tells the caller nothing. -/
theorem Bides.carryOut (h : Bides w n s) (now : Nat) (hm : n.stopped → m ≠ .clock)
    (htold : Link.told w.caller (n.link.react now m).2 = [])
    (hepoch : (n.link.react now m).1.epoch = n.link.epoch) :
    Bides w { n with link := (n.link.react now m).1 }
      (carryOut w.link (n.link.react now m) s).1 := by
  have hpassed := each_perform_passes (react_wakes h.sound now m htold) w.link
    (s.setNode w.link fun n' => { n' with link := (n.link.react now m).1 })
  obtain ⟨socket, hsocket, hattached⟩ := h.socket
  obtain ⟨socket', hsocket', hsame⟩ := hpassed.sockets w.link w.epoch w.socket socket hsocket
  exact ⟨h.lodged.carryOut now hm htold, ⟨socket', hsocket', hsame ▸ hattached⟩,
    hepoch.trans h.epoch⟩

/-- The link of a call writes to the socket of its epoch. -/
theorem Bides.sent (h : Bides w n s) (now : Nat)
    (htold : Link.told w.caller (n.link.react now m).2 = []) {id : Id} {text : String}
    (he : .send w.epoch id text ∈ (n.link.react now m).2) :
    .sent w.socket text ∈ (Session.carryOut w.link (n.link.react now m) s).2 := by
  obtain ⟨t, hpassed, hnotes⟩ := mem_each_perform (react_wakes h.sound now m htold) he w.link
    (s.setNode w.link fun n' => { n' with link := (n.link.react now m).1 })
  obtain ⟨socket, hsocket, hattached⟩ := h.socket
  obtain ⟨socket', hsocket', hsame⟩ := hpassed.sockets w.link w.epoch w.socket socket hsocket
  refine hnotes _ ?_
  simp only [perform, hsocket', hsame, hattached, ↓reduceIte, List.mem_singleton]

def Errand.Survives (w : Errand) (i : Input) : Prop :=
  (Moment.input i).caller? ≠ some w.caller ∧ (Moment.input i).outcome? w.epoch w.id = none

/-- A call waits under its id, and nothing has come to its link that settles it. Its request is kept
back or has been written. -/
structure Awaits (w : Errand) (n : Node) (c : Change) : Prop where
  bides : Bides w n c.1
  going : n.stopped = false
  waiting : n.link.pending.idsOf w.caller = [w.id]
  inbox : ∀ i ∈ n.inbox, w.Survives i
  request : ⟨w.id, w.request⟩ ∈ n.link.backlog.items ∨ w.written ∈ c.2

def Pends (w : Errand) (c : Change) : Prop := ∃ n, Awaits w n c

theorem Awaits.pends (h : Awaits w n c) : Pends w c := ⟨n, h⟩

/-- The link of a call that waits is not closed. Once it is open, the request has been written. -/
theorem Pends.written (h : Pends w c) :
    ∃ actual, c.1.nodes[w.link]? = some actual ∧ actual.link.phase ≠ .closed ∧
      (actual.link.phase = .opened → w.written ∈ c.2) := by
  obtain ⟨n, h⟩ := h
  obtain ⟨actual, hactual, rfl⟩ := h.bides.at
  have hs := h.bides.sound
  refine ⟨actual, hactual, hs.open_of_awaiting h.waiting, fun hp => ?_⟩
  have hnone : actual.core.link.backlog.items = [] := hs.written (by simp [Node.core, hp])
  exact h.request.resolve_left (hnone ▸ List.not_mem_nil)

theorem Awaits.andThen {f : Session → Change} (h : Awaits w n c) (hb : Bides w n (f c.1).1) :
    Awaits w n (c.andThen f) :=
  ⟨hb, h.going, h.waiting, h.inbox, h.request.imp_right (List.mem_append_left _)⟩

/-- A call waits on through what other links do. -/
theorem Pends.aside {f : Session → Change} (h : Pends w c) (hk : k ≠ w.link)
    (ha : Aside w.caller k c.1 (f c.1).1) (hb : Balanced (f c.1).1) : Pends w (c.andThen f) := by
  obtain ⟨n, h⟩ := h
  exact (h.andThen (ha.bides hk h.bides hb)).pends

/-- A moment that does not settle the call leaves it waiting. -/
theorem Awaits.carryOut (h : Awaits w n c) (now : Nat) (hc : m.caller? ≠ some w.caller)
    (ho : m.outcome? w.epoch w.id = none) :
    Awaits w { n with link := (n.link.react now m).1 }
      (c.andThen (carryOut w.link (n.link.react now m))) := by
  have hmove := n.link.react_move now m
  have hs := h.bides.sound
  obtain ⟨hepoch, htold, hids⟩ := hmove.awaiting hs h.waiting hc
  rw [h.bides.epoch, ho] at htold hids
  rw [Link.told_seen] at htold
  have hgoing : n.stopped → m ≠ .clock := fun hstopped => by simp [h.going] at hstopped
  refine ⟨h.bides.carryOut now hgoing htold hepoch, h.going, hids, h.inbox, ?_⟩
  rcases h.request with hkept | hwritten
  · rcases hmove.kept_back hs hkept with hkept | hsent | ⟨-, hended⟩
    · exact .inl hkept
    · rw [h.bides.epoch] at hsent
      exact .inr (List.mem_append_right _ (h.bides.sent now htold (List.mem_filter.mp hsent).1))
    · rcases hended w.caller with hnone | hsome
      · rw [h.waiting] at hnone
        cases hnone
      · rw [Link.told_seen] at hsome
        exact absurd htold hsome
  · exact .inr (List.mem_append_left _ hwritten)

theorem Pends.deliver (h : Pends w c) (hi : w.Survives i) :
    Pends w (c.andThen (deliver w.link i)) := by
  obtain ⟨n, h⟩ := h
  obtain ⟨actual, hactual, rfl⟩ := h.bides.at
  have hafter := (h.carryOut c.1.now hi.1 hi.2).pends
  have hdeliver : Session.deliver w.link i c.1 =
      Session.carryOut w.link (actual.core.link.react c.1.now (.input i)) c.1 :=
    deliver_node hactual i
  simp only [Change.andThen, hdeliver] at hafter ⊢
  exact hafter

theorem Bides.emptied (h : Bides w n s) :
    Bides w { n with inbox := [] } (s.setNode w.link fun n => { n with inbox := [] }) :=
  ⟨h.lodged.emptied, h.socket, h.epoch⟩

theorem Pends.drain (h : Pends w c) (k : LinkIndex) : Pends w (c.andThen (drain k)) := by
  obtain ⟨n, h⟩ := h
  have hb := h.bides.balanced
  by_cases hk : k = w.link
  · subst hk
    obtain ⟨actual, hactual, rfl⟩ := h.bides.at
    let emptied : Change := (c.1.setNode w.link fun n => { n with inbox := [] }, c.2)
    have hempty : Pends w emptied :=
      ⟨_, h.bides.emptied, h.going, h.waiting, List.forall_mem_nil _, h.request⟩
    have hdrain : c.andThen (Session.drain w.link) =
        emptied.andThen (each actual.inbox (Session.deliver w.link)) := by
      simp only [Change.andThen, Session.drain, hactual, emptied]
    rw [hdrain]
    exact andThen_each (P := Pends w) (fun i hi c hc => hc.deliver (h.inbox i hi)) hempty
  · exact h.pends.aside hk ((h.bides.strange k hk).drain hb) (hb.drain k)

theorem Change.andThen_nothing (c : Change) : c.andThen (fun s => (s, [])) = c := by
  simp [Change.andThen]

theorem Pends.same {f : Session → Change} (h : Pends w c) (hf : f c.1 = (c.1, [])) :
    Pends w (c.andThen f) := by
  simpa only [Change.andThen, hf, List.append_nil] using h

theorem Pends.retire (h : Pends w c) (k : LinkIndex) : Pends w (c.andThen (retire k)) := by
  have hc := h
  obtain ⟨n, h⟩ := h
  by_cases hk : k = w.link
  · subst hk
    obtain ⟨actual, hactual, -⟩ := h.bides.at
    exact hc.same (by simp [Session.retire, hactual, h.bides.holds])
  · exact hc.aside hk (h.bides.strange k hk).retire (h.bides.balanced.retire k)

theorem Pends.ring (h : Pends w c) (k : LinkIndex) : Pends w (c.andThen (ring k)) := by
  have hc := h
  obtain ⟨n, h⟩ := h
  have hb := h.bides.balanced
  by_cases hk : k = w.link
  · subst hk
    obtain ⟨actual, hactual, rfl⟩ := h.bides.at
    have hgoing : actual.stopped = false := h.going
    have hafter := (h.carryOut (m := .clock) c.1.now nofun rfl).pends
    have hring : Session.ring w.link c.1 =
        Session.carryOut w.link (actual.core.link.react c.1.now .clock) c.1 := by
      simp only [Session.ring, hactual, hgoing]
      rfl
    simp only [Change.andThen, hring] at hafter ⊢
    exact hafter
  · exact hc.aside hk ((h.bides.strange k hk).ring hb) (hb.ring k)

theorem Bides.lt (h : Bides w n s) : w.link < s.nodes.length := h.lodged.lt

/-- A call that waits is not due to go on. -/
theorem Pends.resume (h : Pends w c) (y : Caller) : Pends w (c.andThen (resume y)) := by
  have hc := h
  obtain ⟨n, h⟩ := h
  refine hc.aside (Nat.ne_of_gt h.bides.lt) (resume_aside fun _ => ?_) (h.bides.balanced.resume y)
  rw [find?_callsOf, h.bides.calls]
  rfl

theorem Pends.awake (h : Pends w c) : Pends w ({ c.1 with woken := [] }, c.2) := by
  obtain ⟨n, h⟩ := h
  have hb := h.bides
  have hlodged : Lodged w.call n { c.1 with woken := [] } :=
    ⟨hb.balanced.of_same rfl rfl, hb.calls, hb.lodged.node, hb.strange⟩
  exact ⟨n, ⟨hlodged, hb.socket, hb.epoch⟩, h.going, h.waiting, h.inbox, h.request⟩

theorem Pends.tell (h : Pends w c) : Pends w (c.andThen tell) := by
  obtain ⟨n, h⟩ := h
  have hb := h.bides
  have hcalls : (Session.tell c.1).1.callsOf w.caller = [w.call] := by
    rw [callsOf_tell, hb.calls]
    rfl
  exact (h.andThen ⟨⟨hb.balanced.tell, hcalls, hb.lodged.node, hb.strange⟩, hb.socket,
    hb.epoch⟩).pends

/-- A call waits on while its session runs until it is idle. -/
theorem Pends.settleDown (h : Pends w c) : Pends w (c.andThen settleDown) :=
  settleDown_induction (fun k _ hc => hc.drain k) (fun k _ hc => hc.retire k)
    (fun k _ hc => hc.ring k) (fun _ hc => hc.awake) (fun y _ hc => hc.resume y) h

/-- A step that leaves a call alone: it drops no call of its label, and does not cut off its socket;
and what it reports from there is not the end of the connection and has no entry that names the id
of the call. -/
def Step.LeavesAlone (label : String) (i : SocketIndex) (id : Id) : Step → Prop
  | .abandon dropped => dropped ≠ label
  | .detach j => j ≠ i
  | .transport j (.closed _) => j ≠ i
  | .transport j (.message text) =>
    j = i → ∀ entry ∈ Message.readFrame text, Link.entryId? entry ≠ some id
  | _ => True

theorem Bides.receive (h : Bides w n s) (hb : Balanced s')
    (hcalls : s'.callsOf w.caller = [w.call]) (hcores : s'.cores = (s.post k i).cores)
    (hsockets : s'.sockets = s.sockets) (hstrange : ∀ m, m ≠ w.link → StrangerAt w.caller s' m) :
    Bides w (if k = w.link then n.receive i else n) s' where
  lodged := h.lodged.receive hb hcalls hcores hstrange
  socket := by
    simp only [socketOf?, hsockets]
    exact h.socket
  epoch := by
    split
    · exact h.epoch
    · exact h.epoch

/-- A link has no other socket for the epoch of a call. -/
theorem Bides.socket_eq (h : Bides w n s) {j : SocketIndex} {socket : Socket}
    (hj : s.sockets[j]? = some socket) (hl : socket.link = w.link) (he : socket.epoch = w.epoch) :
    j = w.socket := by
  obtain ⟨own, hown, -⟩ := h.socket
  obtain ⟨hget, hlink, hepoch⟩ := socketOf?_some hown
  obtain ⟨actual, hactual, -⟩ := h.at
  have hs : s.standing[w.link]? = some (actual.link, actual.stopped) := by
    simp [standing, hactual]
  obtain ⟨-, htally⟩ := (h.balanced w.link).link _ _ hs
  exact htally.once hj hget hl hlink (he.trans hepoch.symm)

theorem Errand.survives_request (hx : s.callers ≠ w.caller) (r : Request) :
    w.Survives (.request r s.callers) :=
  ⟨fun hc => hx (Option.some.inj hc), rfl⟩

theorem Errand.survives_subscribe (w : Errand) (callback : Link.Callback) :
    w.Survives (.subscribe callback) :=
  ⟨nofun, rfl⟩

/-- What a socket reports in a step that leaves a call alone does not settle the call. -/
theorem Bides.survives_event (h : Bides w n s) {j : SocketIndex} {event : Link.Event}
    {socket : Socket} (hj : s.sockets[j]? = some socket)
    (hst : (Step.transport j event).LeavesAlone w.label w.socket w.id)
    (hl : socket.link = w.link) : w.Survives (.transport socket.epoch event) := by
  refine ⟨nofun, ?_⟩
  by_cases he : socket.epoch = w.epoch
  · have hown := h.socket_eq hj hl he
    cases event with
    | opened | fault => rfl
    | closed closing => exact absurd hown hst
    | message text =>
      have hnone : (Message.readFrame text).find? (Link.names w.id) = none := by
        refine List.find?_eq_none.mpr fun entry hentry hnames => ?_
        exact hst hown entry hentry (by simpa [Link.names] using hnames)
      simp [Moment.outcome?, Moment.entries, Moment.closing?, he, hnone]
  · cases event <;> simp [Moment.outcome?, Moment.entries, Moment.closing?, he]

theorem Step.LeavesAlone.drops {st : Step} {label : String} {i : SocketIndex} {id : Id}
    (h : st.LeavesAlone label i id) : st.drops? ≠ some label := by
  cases st with
  | abandon dropped => exact fun hd => h (Option.some.inj hd)
  | _ => exact nofun

/-- A step that leaves a call alone brings nothing to its link that settles it. -/
theorem Pends.take (h : Pends w c) (he : Enrolled c.1) {st : Step}
    (hst : st.LeavesAlone w.label w.socket w.id) :
    Pends w (c.andThen fun s => (s.take st).2) := by
  obtain ⟨n, h⟩ := h
  have hbides := h.bides
  have hb := hbides.balanced.take st
  have hcalls : (c.1.take st).2.1.callsOf w.caller = [w.call] :=
    callsOf_take he (d := w.call) hbides.calls hst.drops
  have hne : c.1.callers ≠ w.caller := Nat.ne_of_gt (he.caller_lt hbides.lodged.mem_calls)
  have harrives := take_arrives c.1 st
  have hstrange : ∀ m, m ≠ w.link → StrangerAt w.caller (c.1.take st).2.1 m := fun m hm =>
    harrives.stranger (hbides.strange m hm) fun _ => hne
  have hrequest := h.request.imp_right (List.mem_append_left (c.1.take st).2.2)
  -- What has come to the link of the call stays, with an input behind it that does not settle it.
  have hreceived : ∀ {k i}, (c.1.take st).2.1.cores = (c.1.post k i).cores →
      (c.1.take st).2.1.sockets = c.1.sockets → (k = w.link → w.Survives i) →
      Pends w (c.andThen fun s => (s.take st).2) := by
    intro k i hcores hsockets hi
    have hnow := hbides.receive hb hcalls hcores hsockets hstrange
    by_cases hk : k = w.link
    · rw [if_pos hk] at hnow
      refine ⟨_, hnow, h.going, h.waiting, fun i' hi' => ?_, hrequest⟩
      rcases List.mem_append.mp hi' with hi' | hi'
      · exact h.inbox i' hi'
      · exact List.mem_singleton.mp hi' ▸ hi hk
    · rw [if_neg hk] at hnow
      exact ⟨n, hnow, h.going, h.waiting, h.inbox, hrequest⟩
  cases harrives with
  | nothing cores sockets =>
    have hsocket : ∃ socket, (c.1.take st).2.1.socketOf? w.link w.epoch =
        some (w.socket, socket) ∧ socket.attached := by
      simp only [socketOf?, sockets]
      exact hbides.socket
    have hnode := (congrArg (·[w.link]?) cores).trans hbides.lodged.node
    exact ⟨n, ⟨⟨hb, hcalls, hnode, hstrange⟩, hsocket, hbides.epoch⟩, h.going, h.waiting, h.inbox,
      hrequest⟩
  | @link name role config session =>
    have hadded := openLink_aside w.caller name role config c.1
    rw [← session] at hadded
    exact h.pends.aside (f := fun s => (s.take st).2) (Nat.ne_of_gt hbides.lt) hadded hb
  | @detached j step session =>
    subst step
    obtain ⟨socket, hsocket, hattached⟩ := hbides.socket
    have hkept := socketOf?_setSocket (j := j) (f := fun k => { k with attached := false }) hsocket
      fun _ => ⟨rfl, rfl⟩
    rw [if_neg hst] at hkept
    exact ⟨n, ⟨⟨hb, hcalls, hbides.lodged.node, hstrange⟩, ⟨socket, hkept, hattached⟩,
      hbides.epoch⟩, h.going, h.waiting, h.inbox, hrequest⟩
  | request _ cores sockets =>
    exact hreceived cores sockets fun _ => Errand.survives_request hne _
  | callback cores sockets =>
    exact hreceived cores sockets fun _ => w.survives_subscribe _
  | event step owner cores sockets =>
    subst step
    exact hreceived cores sockets fun hl => hbides.survives_event owner hst hl

/-- A call waits on through a step that leaves it alone, held back or not. -/
theorem Pends.step (h : Pends w c) (he : Enrolled c.1) (held : Bool) {st : Step}
    (hst : st.LeavesAlone w.label w.socket w.id) :
    Pends w (c.andThen fun s => (s.step held st).2) := by
  have htaken := h.take he hst
  cases held with
  | true => exact htaken
  | false =>
    have hall := htaken.settleDown.tell
    simpa only [Session.step, Bool.false_eq_true, ↓reduceIte, Change.andThen,
      List.append_assoc] using hall

/-- A call waits through all steps that leave it alone. -/
theorem Pends.run (h : Pends w c) (he : Enrolled c.1) {sts : List (Bool × Step)}
    (hsts : ∀ st ∈ sts, st.2.LeavesAlone w.label w.socket w.id) :
    Pends w (c.andThen fun s => s.run sts) := by
  induction sts generalizing c with
  | nil => exact h.same rfl
  | cons st sts ih =>
    obtain ⟨hst, hsts⟩ := List.forall_mem_cons.mp hsts
    have hall := ih (h.step he st.1 hst) (he.step st.1 st.2) hsts
    simpa only [Session.run, Change.andThen, List.append_assoc] using hall

end Switchboard.Session
