import Switchboard.Proofs.Session.Strangers

namespace Switchboard.Session

open Link (Caller Effect Input Moment)

/-- A session with a call and the link of the call, as they are. The caller has no other call and is
a stranger to all other links. -/
structure Lodged (d : Call) (n : Node) (s : Session) : Prop where
  balanced : Balanced s
  calls : s.callsOf d.caller = [d]
  node : s.cores[d.link]? = some n
  strange : ∀ m, m ≠ d.link → StrangerAt d.caller s m

variable {d : Call} {n : Node} {s s' : Session} {k : LinkIndex} {m : Moment}

theorem Lodged.at (h : Lodged d n s) :
    ∃ actual, s.nodes[d.link]? = some actual ∧ actual.core = n := by
  have hn := h.node
  rwa [cores_getElem?, Option.map_eq_some_iff] at hn

theorem Lodged.sound (h : Lodged d n s) : n.link.Sound := by
  obtain ⟨actual, hactual, rfl⟩ := h.at
  exact h.balanced.sound (n := actual) hactual

theorem Lodged.lt (h : Lodged d n s) : d.link < s.nodes.length := by
  obtain ⟨actual, hactual, -⟩ := h.at
  exact (List.getElem?_eq_some_iff.mp hactual).1

theorem Lodged.mem_calls (h : Lodged d n s) : d ∈ s.calls :=
  (mem_callsOf.mp (h.calls ▸ List.mem_singleton_self d)).1

/-- A call that goes on holds its link until it is done. -/
theorem Lodged.holds (h : Lodged d n s) (hk : d.continuation.isSome) (hd : d.isDone = false) :
    s.holds d.link = true := by
  cases hh : s.holds d.link with
  | true => rfl
  | false =>
    have hdone := (holds_eq_false.mp hh).2 d h.mem_calls rfl hk
    rw [hd] at hdone
    cases hdone

theorem Aside.lodged (h : Aside d.caller k s s') (hk : k ≠ d.link) (hs : Lodged d n s)
    (hb : Balanced s') : Lodged d n s' := by
  refine ⟨hb, h.calls.trans hs.calls, (h.elsewhere _ hk.symm).trans hs.node, fun m hm => ?_⟩
  by_cases hmk : m = k
  · exact hmk ▸ h.stranger
  · exact fun n hn => hs.strange m hm n (h.elsewhere m hmk ▸ hn)

/-- A change of the link of a call is seen there and at no other link. -/
theorem Lodged.setNode (h : Lodged d n s) {f : Node → Node} (hf : ∀ m, (f m).core = f m.core) :
    (s.setNode d.link f).cores[d.link]? = some (f n) ∧
      ∀ m, m ≠ d.link → StrangerAt d.caller (s.setNode d.link f) m := by
  obtain ⟨actual, hactual, rfl⟩ := h.at
  constructor
  · rw [cores_getElem?, Session.setNode, List.getElem?_modify_eq, hactual, ← hf]
    rfl
  · intro m hm n' hn'
    rw [cores_getElem?, getElem?_setNode hm.symm, ← cores_getElem?] at hn'
    exact h.strange m hm n' hn'

/-- The session after the link of a call has taken what has come to it out of its inbox. -/
theorem Lodged.emptied (h : Lodged d n s) :
    Lodged d { n with inbox := [] } (s.setNode d.link fun n => { n with inbox := [] }) := by
  have hb : Balanced (s.setNode d.link fun n => { n with inbox := [] }) :=
    h.balanced.of_same (standing_setNode s d.link (fun _ => rfl) fun _ => rfl) rfl
  obtain ⟨hnode, hstrange⟩ := h.setNode (f := fun n => { n with inbox := [] }) fun _ => rfl
  exact ⟨hb, h.calls, hnode, hstrange⟩

/-- The link of a call goes through a moment that tells the caller nothing. -/
theorem Lodged.carryOut (h : Lodged d n s) (now : Nat) (hm : n.stopped → m ≠ .clock)
    (htold : Link.told d.caller (n.link.react now m).2 = []) :
    Lodged d { n with link := (n.link.react now m).1 }
      (carryOut d.link (n.link.react now m) s).1 := by
  obtain ⟨actual, hactual, hcore⟩ := h.at
  have hbalanced : Balanced (Session.carryOut d.link (n.link.react now m) s).1 := by
    subst hcore
    exact h.balanced.carryOut hactual now hm
  have hpassed := each_perform_passes (react_wakes h.sound now m htold) d.link
    (s.setNode d.link fun n' => { n' with link := (n.link.react now m).1 })
  obtain ⟨hnode, hstrange⟩ := h.setNode (f := fun n' => { n' with link := (n.link.react now m).1 })
    fun _ => rfl
  exact ⟨hbalanced, hpassed.calls.trans h.calls,
    (congrArg (·[d.link]?) hpassed.cores).trans hnode,
    fun j hj => (hstrange j hj).of_cores hpassed.cores⟩

/-- The link of a call with an input behind what has come to it. -/
theorem Lodged.receive {i : Input} (h : Lodged d n s) (hb : Balanced s')
    (hcalls : s'.callsOf d.caller = [d]) (hcores : s'.cores = (s.post k i).cores)
    (hstrange : ∀ m, m ≠ d.link → StrangerAt d.caller s' m) :
    Lodged d (if k = d.link then n.receive i else n) s' := by
  refine ⟨hb, hcalls, ?_, hstrange⟩
  rw [hcores, cores_post, h.node]
  rfl

/-- A call that is made is lodged with its link, which has its request behind what came before. -/
theorem Lodged.made (hb : Balanced s) (he : Enrolled s) (hf : Fresh s) {l : LinkIndex}
    (hn : s.nodes[l]? = some n) (label : String) (r : Message.Request) (k : Continuation) :
    Lodged { caller := s.callers, label, link := l, continuation := some k }
      (n.core.receive (.request r s.callers)) (s.call label l r (some k)) := by
  have hlinks := (hf s.callers (Nat.le_refl _)).links
  have hcores : (s.call label l r (some k)).cores = (s.post l (.request r s.callers)).cores := rfl
  refine ⟨(hb.post l _).of_same rfl rfl, ?_, ?_, fun m hm => ?_⟩
  · have hnone := callsOf_fresh he (Nat.le_refl s.callers)
    rw [callsOf, call, List.filter_append, ← callsOf, hnone]
    simp
  · rw [hcores, cores_post, cores_getElem?, hn]
    simp
  · refine StrangerAt.of_cores (fun n' hn' => hlinks m n' ?_) hcores
    rw [cores_post] at hn'
    simpa [Ne.symm hm] using hn'

theorem deliver_node {l : LinkIndex} (hn : s.nodes[l]? = some n) (i : Input) :
    deliver l i s = carryOut l (n.link.react s.now (.input i)) s := by
  simp only [deliver, hn]
  rfl

theorem Enrolled.caller_lt (h : Enrolled s) {call : Call} (hc : call ∈ s.calls) :
    call.caller < s.callers :=
  h.born call.entry (List.mem_map_of_mem hc)

/-- A step that does not drop a call leaves it as it is. -/
theorem callsOf_take (he : Enrolled s) {st : Step} (hc : s.callsOf d.caller = [d])
    (hst : st.drops? ≠ some d.label) : (s.take st).2.1.callsOf d.caller = [d] := by
  have hmem : d ∈ s.calls := (mem_callsOf.mp (hc ▸ List.mem_singleton_self d)).1
  cases take_enrols s st with
  | same calls => rw [callsOf, calls, ← callsOf, hc]
  | @made new calls caller =>
    have hne : (new.caller == d.caller) = false :=
      beq_false_of_ne (caller ▸ Nat.ne_of_gt (he.caller_lt hmem))
    rw [callsOf, calls, List.filter_append, ← callsOf, hc]
    simp [hne]
  | @dropped label drops session =>
    have hne : d.label ≠ label := fun hl => hst (hl ▸ drops)
    have hfilter : (s.take st).2.1.callsOf d.caller =
        (s.callsOf d.caller).filter (·.label != label) := by
      rw [session]
      simp only [callsOf, List.filter_filter]
      congr 1
      funext c
      exact Bool.and_comm _ _
    rw [hfilter, hc]
    simp [hne]

end Switchboard.Session
