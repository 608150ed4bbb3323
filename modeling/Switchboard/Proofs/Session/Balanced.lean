import Switchboard.Proofs.Session.Ledger

namespace Switchboard.Session

open Link (Caller Effect Input Moment)

def standing (s : Session) : List (Link × Bool) := s.nodes.map fun n => (n.link, n.stopped)

/-- What holds of the place of a link in a session: there is no link and it has made no socket, or
the link is sound and its ledger is in order. -/
structure BalancedAt (s : Session) (i : LinkIndex) : Prop where
  vacant : s.standing[i]? = none → s.ledger i = []
  link : ∀ l stopped, s.standing[i]? = some (l, stopped) →
    l.Sound ∧ Tally s i l.epoch l.config.url (heldBy l stopped)

def Balanced (s : Session) : Prop := ∀ i, BalancedAt s i

variable {s s' : Session} {i : LinkIndex} {n : Node}

theorem BalancedAt.of_same (h : BalancedAt s i) (hs : s'.standing[i]? = s.standing[i]?)
    (hl : s'.ledger i = s.ledger i) : BalancedAt s' i := by
  refine ⟨fun hnone => ?_, fun l stopped hsome => ?_⟩
  · rw [hl]
    exact h.vacant (hs ▸ hnone)
  · rw [Tally, hl]
    exact h.link l stopped (hs ▸ hsome)

/-- A link is balanced if it is sound and its ledger is in order. -/
theorem BalancedAt.of_link {l : Link} {stopped : Bool}
    (hs : s.standing[i]? = some (l, stopped)) (hsound : l.Sound)
    (htally : Tally s i l.epoch l.config.url (heldBy l stopped)) : BalancedAt s i := by
  refine ⟨fun hnone => ?_, fun l' stopped' hsome => ?_⟩
  · rw [hs] at hnone
    cases hnone
  · obtain ⟨rfl, rfl⟩ := Prod.mk.inj (Option.some.inj (hs.symm.trans hsome))
    exact ⟨hsound, htally⟩

theorem Balanced.of_same (h : Balanced s) (hs : s'.standing = s.standing)
    (hl : s'.ledger = s.ledger) : Balanced s' :=
  fun i => (h i).of_same (congrArg (·[i]?) hs) (congrFun hl i)

/-- A change that concerns one link has to be looked at there only. -/
theorem Balanced.change (h : Balanced s) (hs : ∀ j, j ≠ i → s'.standing[j]? = s.standing[j]?)
    (hl : ∀ j, j ≠ i → s'.ledger j = s.ledger j) (hi : BalancedAt s' i) : Balanced s' := by
  intro j
  by_cases hj : j = i
  · exact hj ▸ hi
  · exact (h j).of_same (hs j hj) (hl j hj)

theorem standing_setNode (s : Session) (k : LinkIndex) {f : Node → Node}
    (hl : ∀ n, (f n).link = n.link) (hs : ∀ n, (f n).stopped = n.stopped) :
    (s.setNode k f).standing = s.standing := by
  apply List.ext_getElem?
  intro j
  simp only [standing, setNode, List.getElem?_map, List.getElem?_modify]
  cases s.nodes[j]? with
  | none => rfl
  | some n => by_cases h : k = j <;> simp [h, hl, hs]

theorem standing_perform (k : LinkIndex) (e : Effect) (s : Session) :
    (perform k e s).1.standing = s.standing := by
  rcases perform_nodes k e s with h | h
  · rw [standing, h, ← standing]
  · rw [standing, h, ← standing]
    exact standing_setNode s k (fun _ => rfl) fun _ => rfl

theorem standing_each_perform (k : LinkIndex) (es : List Effect) (s : Session) :
    (each es (perform k) s).1.standing = s.standing :=
  each_induction (P := fun t => t.standing = s.standing)
    (fun e _ t h => (standing_perform k e t).trans h) rfl

/-- What one link goes through and does has to be looked at there only. -/
theorem Balanced.each_perform (h : Balanced s) (hn : s.nodes[i]? = some n) {f : Node → Node}
    {es : List Effect}
    (hi : n.link.Sound → Tally s i n.link.epoch n.link.config.url (heldBy n.link n.stopped) →
      (f n).link.Sound ∧ Tally (each es (perform i) (s.setNode i f)).1 i (f n).link.epoch
        (f n).link.config.url (heldBy (f n).link (f n).stopped)) :
    Balanced (each es (perform i) (s.setNode i f)).1 := by
  refine h.change (i := i) (fun j hj => ?_) (fun j hj => ?_) ?_
  · rw [standing_each_perform, standing, standing, List.getElem?_map, List.getElem?_map,
      getElem?_setNode hj.symm]
  · exact ledger_each_perform_ne hj.symm es _
  · have hs : s.standing[i]? = some (n.link, n.stopped) := by simp [standing, hn]
    have hs' : (each es (perform i) (s.setNode i f)).1.standing[i]? =
        some ((f n).link, (f n).stopped) := by
      rw [standing_each_perform]
      simp [standing, setNode, hn]
    obtain ⟨hsound, htally⟩ := (h i).link _ _ hs
    obtain ⟨hsound', htally'⟩ := hi hsound htally
    exact .of_link hs' hsound' htally'

/-- A link that has stopped does not hear the clock. -/
theorem Balanced.carryOut (h : Balanced s) (hn : s.nodes[i]? = some n) (now : Nat) {m : Moment}
    (hm : n.stopped → m ≠ .clock) : Balanced (carryOut i (n.link.react now m) s).1 := by
  have hmove := n.link.react_move now m
  refine h.each_perform hn fun hsound htally => ⟨hmove.sound hsound, ?_⟩
  rw [each_perform_seen, hmove.config]
  exact Tally.passage hmove.passage hsound (fun hstopped => hmove.epoch_eq (hm hstopped)) htally

theorem Balanced.deliver (h : Balanced s) (i : LinkIndex) (input : Input) :
    Balanced (deliver i input s).1 := by
  unfold Session.deliver
  split
  · exact h
  · rename_i n hn
    exact h.carryOut hn s.now (m := .input input) nofun

theorem Balanced.ring (h : Balanced s) (i : LinkIndex) : Balanced (ring i s).1 := by
  unfold Session.ring
  split
  · exact h
  · rename_i n hn
    split
    · exact h
    · rename_i hgoing
      exact h.carryOut hn s.now (m := .clock) fun hstopped => absurd hstopped hgoing

theorem Balanced.drain (h : Balanced s) (i : LinkIndex) : Balanced (drain i s).1 := by
  unfold Session.drain
  split
  · exact h
  · have hsame := standing_setNode s i (f := fun n => { n with inbox := [] }) (fun _ => rfl)
      fun _ => rfl
    exact each_induction (fun input _ t ht => ht.deliver i input) (h.of_same hsame rfl)

/-- A link that stops has closed what it held. -/
theorem Balanced.retire (h : Balanced s) (i : LinkIndex) : Balanced (retire i s).1 := by
  unfold Session.retire
  split
  · exact h
  · rename_i n hn
    split
    · exact h
    · rename_i hgoing
      simp only [Bool.or_eq_true, not_or, Bool.not_eq_true] at hgoing
      refine h.each_perform hn fun hsound htally => ⟨hsound, ?_⟩
      rw [hgoing.1] at htally
      exact Tally.stop htally

/-- A new link has one socket, for its first epoch. -/
theorem Balanced.addLink (h : Balanced s) (config : Link.Config) :
    Balanced (addLink config s).1 := by
  let added : Session := { s with nodes := s.nodes ++ [{ link := (Link.start config).1 }] }
  have hadded : (s.addLink config).1.standing = added.standing :=
    standing_each_perform s.nodes.length (Link.start config).2 added
  refine h.change (i := s.nodes.length) (fun j hj => ?_) (fun j hj => ?_) ?_
  · rw [hadded]
    simp only [added, standing, List.getElem?_map]
    rcases Nat.lt_or_gt_of_ne hj with hlt | hgt
    · rw [List.getElem?_append_left hlt]
    · rw [List.getElem?_eq_none (Nat.le_of_lt hgt), List.getElem?_eq_none (by simpa using Nat.succ_le_of_lt hgt)]
  · exact ledger_each_perform_ne hj.symm (Link.start config).2 added
  · have hnew : (s.addLink config).1.standing[s.nodes.length]? =
        some ((Link.start config).1, false) := by
      rw [hadded]
      simp [added, standing]
    have hvacant : s.ledger s.nodes.length = [] := (h _).vacant (by simp [standing])
    have hunmade : Tally added s.nodes.length 0 config.url none := hvacant
    exact .of_link hnew (Link.start_sound config) hunmade.connect

theorem Balanced.openLink (h : Balanced s) (name : String) (role : Role) (config : Link.Config) :
    Balanced (openLink name role config s).1 :=
  (h.addLink config).of_same rfl rfl

theorem Balanced.resume (h : Balanced s) (caller : Caller) : Balanced (resume caller s).1 := by
  unfold Session.resume
  split
  · rename_i k outcome hfind
    have hdone : Balanced { s with calls := s.calls.map fun c =>
        if c.caller = caller then { c with progress := .done (.answer (k.sequel.answer outcome)) }
        else c } := h.of_same rfl rfl
    cases outcome with
    | error failure => exact hdone
    | ok v =>
      cases ho : k.sequel.opens with
      | none => exact hdone
      | some a => exact hdone.openLink k.name .member _
  · exact h

theorem Balanced.settleDown (h : Balanced s) : Balanced (settleDown s).1 := by
  have hretire : ∀ {t}, Balanced t →
      Balanced (each (List.range t.nodes.length) Session.retire t).1 :=
    fun ht => each_induction (fun i _ _ ht => ht.retire i) ht
  have hring : ∀ {t}, Balanced t → Balanced (each t.due Session.ring t).1 :=
    fun ht => each_induction (fun i _ _ ht => ht.ring i) ht
  have hresume : ∀ {t}, Balanced t → Balanced (resumeAll t).1 :=
    fun ht => each_induction (fun caller _ _ ht => ht.resume caller) (ht.of_same rfl rfl)
  simp only [Session.settleDown, Change.andThen_fst]
  exact hretire (hresume (hring (hretire (each_induction (fun i _ _ ht => ht.drain i) h))))

theorem Balanced.tell (h : Balanced s) : Balanced (tell s).1 := h.of_same rfl rfl

theorem Balanced.post (h : Balanced s) (i : LinkIndex) (input : Input) :
    Balanced (s.post i input) :=
  h.of_same (standing_setNode s i (fun _ => rfl) fun _ => rfl) rfl

theorem Balanced.openAt (h : Balanced s) (name : String) (role : Role) (e : Hub.Endpoint)
    (address : Except Hub.Misaddressed Address) : Balanced (s.openAt name role e address).2.1 := by
  unfold Session.openAt
  split
  · exact h
  · exact h.openLink name role _

theorem Balanced.withHandle (h : Balanced s) (name : String) {f : Handle → Session}
    (hf : ∀ handle, Balanced (f handle)) : Balanced (s.withHandle name f).2.1 := by
  unfold Session.withHandle
  split
  · exact hf _
  · exact h

/-- A far side that goes away closes nothing. -/
theorem ledger_detach (s : Session) (j : SocketIndex) :
    (s.setSocket j fun k => { k with attached := false }).ledger = s.ledger := by
  funext i
  simp only [ledger, setSocket]
  induction s.sockets generalizing j with
  | nil => simp
  | cons k ks ih =>
    cases j with
    | zero => by_cases hk : k.link = i <;> simp [hk]
    | succ j => by_cases hk : k.link = i <;> simp [hk, ih j]

theorem Balanced.take (h : Balanced s) (st : Step) : Balanced (s.take st).2.1 := by
  cases st with
  | connect name url verbose delay =>
    simp only [Session.take]
    split
    · exact h
    · exact h.openLink name .client _
  | send name | askInstance name =>
    exact h.withHandle name fun handle => (h.post handle.link _).of_same rfl rfl
  | subscribe name => exact h.withHandle name fun handle => h.post handle.link _
  | clone name => exact h.withHandle name fun _ => h.of_same rfl rfl
  | askHub name label c opened =>
    refine h.withHandle name fun handle => ?_
    split
    · split
      · exact (h.post handle.link _).of_same rfl rfl
      · exact h.of_same rfl rfl
    · exact h
  | openHub name e => exact h.openAt name (.hub e) e e.control
  | openInstance name e suffix => exact h.openAt name .member e (e.instanceAt suffix)
  | watch name tag =>
    simp only [Session.take]
    split
    · exact h
    · split
      · exact h
      · exact h.of_same rfl rfl
  | transport j event =>
    simp only [Session.take]
    split
    · exact h
    · split
      · exact h.post _ _
      · exact h
  | detach j => exact h.of_same rfl (ledger_detach s j)
  | drop | abandon | advance | connections | wait => exact h.of_same rfl rfl

theorem Balanced.step (h : Balanced s) (held : Bool) (st : Step) :
    Balanced (s.step held st).2.1 := by
  cases held with
  | true => exact h.take st
  | false =>
    simp only [Session.step, Bool.false_eq_true, ↓reduceIte, Change.andThen_fst]
    exact (h.take st).settleDown.tell

theorem Balanced.run (h : Balanced s) (sts : List (Bool × Step)) : Balanced (s.run sts).1 := by
  induction sts generalizing s with
  | nil => exact h
  | cons st sts ih => exact ih (h.step st.1 st.2)

/-- Every session is balanced, whatever is done in it. -/
theorem run_balanced (sts : List (Bool × Step)) : Balanced (Session.run {} sts).1 :=
  Balanced.run (fun _ => ⟨fun _ => rfl, fun _ _ hsome => by simp [standing] at hsome⟩) sts

/-- In a balanced session a link has one socket for each of its epochs, and the only one that it may
not have closed is that of the current epoch. -/
theorem Balanced.ledger_eq (h : Balanced s) (hn : s.nodes[i]? = some n) :
    s.ledger i = (List.range' 1 n.link.epoch).map fun E => (E, n.link.config.url,
      decide (n.stopped ∨ n.link.phase = .closed ∨ E < n.link.epoch)) := by
  have hs : s.standing[i]? = some (n.link, n.stopped) := by simp [standing, hn]
  obtain ⟨hsound, htally⟩ := (h i).link _ _ hs
  refine htally.trans (List.map_congr_left fun E hE => ?_)
  have hlt := (List.mem_range'_1.mp hE).2
  have hcurrent : n.link.epoch ≠ E ↔ E < n.link.epoch :=
    ⟨fun hne => Nat.lt_of_le_of_ne (by omega) hne.symm, Nat.ne_of_gt⟩
  have hheld : (heldBy n.link n.stopped != some E) =
      decide (n.stopped ∨ n.link.phase = .closed ∨ E < n.link.epoch) := by
    rw [Bool.eq_iff_iff, decide_eq_true_iff, bne_iff_ne, heldBy, hsound.connection]
    cases n.stopped <;> by_cases hp : n.link.phase = .closed <;> simp [hp, hcurrent]
  rw [hheld]

end Switchboard.Session
