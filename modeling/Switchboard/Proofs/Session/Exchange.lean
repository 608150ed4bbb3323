import Switchboard.Proofs.Session.Awaiting
import Switchboard.Proofs.Session.Settling

namespace Switchboard.Session

open Link (Caller Effect Input Moment)
open Message (Id Request)

variable {w : Errand} {n : Node} {s s' : Session} {c : Change} {k l : LinkIndex} {i : Input}

/-- A call finds its link as it was when other links react first. -/
theorem Bides.drainOthers (h : Bides w n c.1) {ks : List LinkIndex} (hks : w.link ∉ ks) :
    Bides w n (c.andThen (each ks drain)).1 := by
  refine andThen_each (P := fun c => Bides w n c.1) (fun k hk c hc => ?_) h
  have hne : k ≠ w.link := fun he => hks (he ▸ hk)
  exact ((hc.strange k hne).drain hc.balanced).bides hne hc (hc.balanced.drain k)

def caughtUp (s : Session) (n : Node) : Link :=
  (n.link.run (n.inbox.map fun i => (s.now, .input i))).1

/-- What came to its link before a call is made leaves the link in its epoch. -/
theorem Bides.catchUp {now : Nat} {is : List Input} (h : Bides w n c.1) (hnow : c.1.now = now)
    (hids : n.link.pending.idsOf w.caller = [])
    (his : ∀ i ∈ is, (Moment.input i).caller? ≠ some w.caller) :
    let link := (n.link.run (is.map fun i => (now, .input i))).1
    Bides w { n with link := link } (c.andThen (each is (deliver w.link))).1 ∧
      link.pending.idsOf w.caller = [] := by
  induction is generalizing n c with
  | nil => exact ⟨h, hids⟩
  | cons i is ih =>
    obtain ⟨hi, his⟩ := List.forall_mem_cons.mp his
    obtain ⟨actual, hactual, rfl⟩ := h.at
    have hmove := actual.core.link.react_move now (.input i)
    obtain ⟨htold, hids'⟩ := hmove.absent h.sound hids hi
    rw [Link.told_seen] at htold
    have hafter := h.carryOut (m := .input i) now (fun _ => nofun) htold (hmove.epoch_eq nofun)
    have hdeliver : deliver w.link i c.1 =
        Session.carryOut w.link (actual.core.link.react now (.input i)) c.1 :=
      hnow ▸ deliver_node hactual i
    have hlater : (deliver w.link i c.1).1.now = now := (robust_now now).deliver w.link i hnow
    rw [← hdeliver] at hafter
    rw [andThen_cons]
    exact ih (c := c.andThen (deliver w.link i)) hafter hlater hids' his

/-- A call that comes to its link, which is not closed, waits under the next id from then on. -/
theorem Bides.enter (h : Bides w n c.1) (hgoing : n.stopped = false) (hinbox : n.inbox = [])
    (hids : n.link.pending.idsOf w.caller = []) (hp : n.link.phase ≠ .closed)
    (hid : n.link.pending.next = w.id) :
    Pends w (c.andThen (deliver w.link (.request w.request w.caller))) := by
  obtain ⟨actual, hactual, rfl⟩ := h.at
  have hs := h.sound
  have hmove := actual.core.link.react_move c.1.now (.input (.request w.request w.caller))
  have hcall := hmove.call hids
  have hentered := hmove.entered hs hp
  rw [Link.told_seen] at hcall
  rcases hcall with ⟨f, hf, -, -⟩ | ⟨-, hepoch, htold, hids'⟩
  · exact absurd (hs.closed_of_ended hf) hp
  · have hafter := h.carryOut (m := .input (.request w.request w.caller)) c.1.now
      (fun _ => nofun) htold hepoch
    have hdeliver : deliver w.link (.request w.request w.caller) c.1 =
        Session.carryOut w.link
          (actual.core.link.react c.1.now (.input (.request w.request w.caller))) c.1 :=
      deliver_node hactual _
    simp only [Pends, Change.andThen, hdeliver]
    refine ⟨_, hafter, hgoing, hid ▸ hids', hinbox ▸ List.forall_mem_nil _, ?_⟩
    refine hentered.imp (fun hkept => hid ▸ hkept) fun hsent => ?_
    rw [h.epoch, hid] at hsent
    exact List.mem_append_right _ (h.sent c.1.now htold (List.mem_filter.mp hsent).1)

/-- The session with a call that was made, against the session before. -/
theorem Bides.made (hb : Balanced s) (he : Enrolled s) (hf : Fresh s)
    (hcaller : w.caller = s.callers) {actual : Node} (hn : s.nodes[w.link]? = some actual)
    (hepoch : actual.link.epoch = w.epoch) {socket : Socket}
    (hsocket : s.sockets[w.socket]? = some socket) (hl : socket.link = w.link)
    (hE : socket.epoch = w.epoch) (hattached : socket.attached) :
    Bides w (actual.core.receive (.request w.request w.caller))
      (s.call w.label w.link w.request (some w.continuation)) := by
  have hlodged := Lodged.made hb he hf hn w.label w.request w.continuation
  rw [← hcaller] at hlodged
  refine ⟨hlodged, ⟨socket, ?_, hattached⟩, hepoch⟩
  refine socketOf?_eq_some_iff.mpr ⟨hsocket, ⟨hl, hE⟩, fun j hj other hother hkey => ?_⟩
  have hs : s.standing[w.link]? = some (actual.link, actual.stopped) := by simp [standing, hn]
  obtain ⟨-, htally⟩ := (hb w.link).link _ _ hs
  have hsame := htally.once hother hsocket hkey.1 hl (hkey.2.trans hE.symm)
  exact Nat.ne_of_lt hj hsame

/-- A call on a link that is not closed is under way once the session is idle again. -/
theorem pends_of_call (hb : Balanced s) (he : Enrolled s) (hf : Fresh s)
    (hcaller : w.caller = s.callers) {actual : Node} (hn : s.nodes[w.link]? = some actual)
    (hgoing : actual.stopped = false) (hp : (s.caughtUp actual).phase ≠ .closed)
    (hepoch : actual.link.epoch = w.epoch) (hid : (s.caughtUp actual).pending.next = w.id)
    {socket : Socket} (hsocket : s.sockets[w.socket]? = some socket) (hl : socket.link = w.link)
    (hE : socket.epoch = w.epoch) (hattached : socket.attached) {st : Step}
    (hst : (s.take st).2 = (s.call w.label w.link w.request (some w.continuation), [])) :
    Pends w (s.step false st).2 := by
  have hmade := Bides.made hb he hf hcaller hn hepoch hsocket hl hE hattached
  obtain ⟨hids, hinputs⟩ := ((hf w.caller (Nat.le_of_eq hcaller.symm)).links w.link).node hn
  let made : Change := (s.call w.label w.link w.request (some w.continuation), [])
  have hdrained : Pends w (made.andThen drainAll) := by
    -- The links drained before and behind that of the call leave the call as it is.
    obtain ⟨before, behind, hbefore, -, hturn⟩ := drainAll_turn (c := made) hmade.lt
    rw [hturn]
    refine andThen_each (fun k _ c hc => hc.drain k) ?_
    have hfound := Bides.drainOthers (c := made) hmade hbefore
    have hnow : (made.andThen (each before drain)).1.now = s.now :=
      each_induction (P := fun t => t.now = s.now)
        (fun k _ t ht => (robust_now s.now).drain k ht) rfl
    generalize made.andThen (each before drain) = c at hfound hnow ⊢
    obtain ⟨present, hpresent, hcore⟩ := hfound.at
    have hinbox : present.inbox = actual.inbox ++ [.request w.request w.caller] :=
      congrArg Node.inbox hcore
    -- What was in the inbox comes first and may take ids; the request is the last thing delivered.
    let emptied : Change := (c.1.setNode w.link fun n => { n with inbox := [] }, c.2)
    obtain ⟨hready, hids⟩ :=
      Bides.catchUp (c := emptied) hfound.emptied hnow hids hinputs
    have hdrain : c.andThen (drain w.link) =
        (emptied.andThen (each actual.inbox (deliver w.link))).andThen
          (deliver w.link (.request w.request w.caller)) := by
      have hall : c.andThen (drain w.link) =
          emptied.andThen (each present.inbox (deliver w.link)) := by
        simp only [Change.andThen, drain, hpresent, emptied]
      rw [hall, hinbox, andThen_append, andThen_cons]
      exact Change.andThen_nothing _
    rw [hdrain]
    exact hready.enter hgoing rfl hids hp hid
  have hidle := drained_induction (P := Pends w) (fun k _ hc => hc.retire k)
    (fun k _ hc => hc.ring k) (fun _ hc => hc.awake) (fun y _ hc => hc.resume y) hdrained
  simpa only [Session.step, hst, Bool.false_eq_true, ↓reduceIte] using hidle.tell

/-- The input that settles a call. -/
theorem Awaits.settle (h : Awaits w n c) {outcome : Link.Outcome}
    (hc : (Moment.input i).caller? ≠ some w.caller)
    (ho : (Moment.input i).outcome? w.epoch w.id = some outcome) :
    Settled (w.call.given outcome) (deliver w.link i c.1).1 := by
  have hmove := n.link.react_move c.1.now (.input i)
  obtain ⟨-, htold, -⟩ := hmove.awaiting h.bides.sound h.waiting hc
  rw [h.bides.epoch, ho, Link.told_seen] at htold
  have hexpects : w.call.Expects w.continuation := ⟨rfl, rfl⟩
  exact h.bides.lodged.settle hexpects htold

/-- A call that is settled when links react is told its answer. -/
theorem Settled.told {outcome : Link.Outcome}
    (h : Settled (w.call.given outcome) (c.andThen drainAll).1) :
    .settled w.label (.answer (w.continuation.sequel.answer outcome)) ∈
      ((c.andThen Session.settleDown).andThen tell).2 := by
  have hended := h.reacted.settleDown (k := w.continuation) rfl
  rw [← Change.andThen_fst] at hended
  have hmem : w.call.ended w.continuation outcome ∈
      (c.andThen Session.settleDown).1.callsOf w.call.caller := by
    rw [hended]
    exact List.mem_singleton_self _
  have htold : .settled w.label (.answer (w.continuation.sequel.answer outcome)) ∈
      (tell (c.andThen Session.settleDown).1).2 := by
    rw [tell_notes]
    exact List.mem_append_left _ (List.mem_filterMap.mpr ⟨_, (mem_callsOf.mp hmem).1, rfl⟩)
  exact List.mem_append_right _ htold

/-- The link of a call reacts to what has come to it, the last of which settles the call. -/
theorem Awaits.drain (h : Awaits w n c) (hs : Bides w (n.receive i) s) {outcome : Link.Outcome}
    (hc : (Moment.input i).caller? ≠ some w.caller)
    (ho : (Moment.input i).outcome? w.epoch w.id = some outcome) :
    Settled (w.call.given outcome) (drain w.link s).1 := by
  obtain ⟨present, hpresent, hcore⟩ := hs.at
  have hinbox : present.inbox = n.inbox ++ [i] := congrArg Node.inbox hcore
  let emptied : Change := (s.setNode w.link fun n => { n with inbox := [] }, c.2)
  have hempty : Pends w emptied :=
    ⟨_, hs.emptied, h.going, h.waiting, List.forall_mem_nil _, h.request⟩
  have hbefore : Pends w (emptied.andThen (each n.inbox (deliver w.link))) :=
    andThen_each (P := Pends w) (fun i hi c hc => hc.deliver (h.inbox i hi)) hempty
  obtain ⟨m, hm⟩ := hbefore
  have hsettled := hm.settle hc ho
  have hdrain : (Session.drain w.link s).1 =
      (deliver w.link i (each n.inbox (deliver w.link) emptied.1).1).1 := by
    simp only [Session.drain, hpresent, hinbox, each_concat, emptied]
  rw [hdrain]
  exact hsettled

/-- The step that settles a call tells its caller what the call makes of the outcome. -/
theorem Pends.answer (h : Pends w c) {event : Link.Event}
    {outcome : Link.Outcome}
    (ho : (Moment.input (.transport w.epoch event)).outcome? w.epoch w.id = some outcome) :
    .settled w.label (.answer (w.continuation.sequel.answer outcome)) ∈
      (c.1.step false (.transport w.socket event)).2.2 := by
  obtain ⟨n, h⟩ := h
  obtain ⟨socket, hsocket, -⟩ := h.bides.socket
  obtain ⟨hget, hl, hE⟩ := socketOf?_some hsocket
  have htake : (c.1.take (.transport w.socket event)).2 =
      (c.1.post w.link (.transport w.epoch event), []) := by
    simp only [Session.take, hget, hl, hE, h.bides.holds, ↓reduceIte]
  have hcaller : (Moment.input (.transport w.epoch event)).caller? ≠ some w.caller :=
    (Option.some_ne_none w.caller).symm
  have hstrange : ∀ m, m ≠ w.link →
      StrangerAt w.caller (c.1.post w.link (.transport w.epoch event)) m := fun m hm =>
    (h.bides.strange m hm).post _ hcaller
  have hposted := h.bides.receive (h.bides.balanced.post w.link (.transport w.epoch event))
    h.bides.calls rfl rfl hstrange
  rw [if_pos rfl] at hposted
  let posted : Change := (c.1.post w.link (.transport w.epoch event), [])
  have hdrained : Settled (w.call.given outcome) (posted.andThen drainAll).1 := by
    obtain ⟨before, behind, hbefore, -, hturn⟩ := drainAll_turn (c := posted) hposted.lt
    have hfound := Bides.drainOthers (c := posted) hposted hbefore
    rw [hturn]
    have hrobust := robust_settled (w.call.given_isFixed outcome)
    exact each_induction (fun k _ t ht => hrobust.drain k ht) (h.drain hfound hcaller ho)
  have htold := hdrained.told
  simpa only [Session.step, htake, Bool.false_eq_true, ↓reduceIte] using htold

end Switchboard.Session
