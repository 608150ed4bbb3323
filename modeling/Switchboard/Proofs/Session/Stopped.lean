import Switchboard.Proofs.Session.AtRest

namespace Switchboard.Session

open Link (Caller Effect Input)

variable {s s' : Session} {c : Change} {k l : LinkIndex} {n : Node}

def hasStopped (s : Session) (l : LinkIndex) : Bool := s.nodes[l]?.any (·.stopped)

def inbox (s : Session) (l : LinkIndex) : List Input := (s.nodes[l]?.map (·.inbox)).getD []

/-- Links that have stopped are at rest. -/
def Orderly (s : Session) : Prop := ∀ l, s.hasStopped l → s.inbox l = [] ∧ s.holds l = false

/-- Links have reacted to all that has come to them, and those that have stopped are at rest. -/
def Calm (s : Session) : Prop := ∀ l, s.inbox l = [] ∧ (s.hasStopped l → s.holds l = false)

/-- No link starts or stops, and nothing comes to one. -/
def Follows (s s' : Session) : Prop :=
  ∀ l, s'.hasStopped l = s.hasStopped l ∧ (s'.inbox l = s.inbox l ∨ s'.inbox l = [])

theorem Follows.refl (s : Session) : Follows s s := fun _ => ⟨rfl, .inl rfl⟩

theorem Follows.trans {s'' : Session} (h : Follows s s') (h' : Follows s' s'') :
    Follows s s'' := by
  intro l
  obtain ⟨hs, hi⟩ := h l
  obtain ⟨hs', hi'⟩ := h' l
  refine ⟨hs'.trans hs, ?_⟩
  rcases hi' with hi' | hi'
  · rwa [hi']
  · exact .inr hi'

theorem Follows.of_nodes (h : s'.nodes = s.nodes) : Follows s s' := by
  intro l
  simp [hasStopped, inbox, h]

theorem hasStopped_setNode (s : Session) (k l : LinkIndex) {f : Node → Node}
    (hf : ∀ n, (f n).stopped = n.stopped) : (s.setNode k f).hasStopped l = s.hasStopped l := by
  simp only [hasStopped, setNode, List.getElem?_modify]
  cases s.nodes[l]? with
  | none => rfl
  | some n => by_cases h : k = l <;> simp [h, hf]

theorem inbox_setNode (s : Session) (k l : LinkIndex) {f : Node → Node}
    (hf : ∀ n, (f n).inbox = n.inbox) : (s.setNode k f).inbox l = s.inbox l := by
  simp only [inbox, setNode, List.getElem?_modify]
  cases s.nodes[l]? with
  | none => rfl
  | some n => by_cases h : k = l <;> simp [h, hf]

theorem Follows.setNode (s : Session) (k : LinkIndex) {f : Node → Node}
    (hs : ∀ n, (f n).stopped = n.stopped) (hi : ∀ n, (f n).inbox = n.inbox) :
    Follows s (s.setNode k f) :=
  fun l => ⟨hasStopped_setNode s k l hs, .inl (inbox_setNode s k l hi)⟩

theorem Follows.each {f : α → Session → Change} (hf : ∀ x s, Follows s (f x s).1) (xs : List α)
    (s : Session) : Follows s (each xs f s).1 :=
  each_induction (fun x _ t h => h.trans (hf x t)) (.refl s)

/-- Effects neither stop a link nor bring it anything. -/
theorem perform_follows (k : LinkIndex) (e : Effect) (s : Session) :
    Follows s (perform k e s).1 := by
  rcases perform_nodes k e s with h | h
  · exact .of_nodes h
  · have hpublished := Follows.setNode s k
      (f := fun n => { n with published := n.published + 1 }) (fun _ => rfl) fun _ => rfl
    exact hpublished.trans (.of_nodes h)

theorem perform_holds (k : LinkIndex) (e : Effect) (s : Session) :
    (perform k e s).1.holds = s.holds := by
  cases e with
  | connect | publish | notify | log => rfl
  | settle | forget => exact holds_settle ..
  | send epoch id text =>
    simp only [perform]
    split
    · rfl
    · split <;> rfl
  | close epoch =>
    simp only [perform]
    split <;> rfl

theorem each_perform_holds (k : LinkIndex) (es : List Effect) (s : Session) :
    (each es (perform k) s).1.holds = s.holds :=
  each_induction (P := fun t => t.holds = s.holds) (fun e _ t h => (perform_holds k e t).trans h)
    rfl

theorem carryOut_follows (k : LinkIndex) (r : Link.Reaction) (s : Session) :
    Follows s (carryOut k r s).1 := by
  have hpassed : Follows s (s.setNode k fun n => { n with link := r.1 }) :=
    .setNode s k (fun _ => rfl) fun _ => rfl
  exact hpassed.trans (.each (perform_follows k) r.2 _)

theorem deliver_follows (k : LinkIndex) (i : Input) (s : Session) :
    Follows s (deliver k i s).1 := by
  unfold deliver
  split
  · exact .refl s
  · exact carryOut_follows k _ s

theorem ring_follows (k : LinkIndex) (s : Session) : Follows s (ring k s).1 := by
  unfold ring
  split
  · exact .refl s
  · split
    · exact .refl s
    · exact carryOut_follows k _ s

/-- What has come to a link is gone once it has reacted. -/
theorem drain_follows (k : LinkIndex) (s : Session) :
    Follows s (drain k s).1 ∧ (drain k s).1.inbox k = [] := by
  unfold drain
  split
  · rename_i hk
    refine ⟨.refl s, ?_⟩
    simp [inbox, hk]
  · rename_i n hk
    let emptied := s.setNode k fun n => { n with inbox := [] }
    have hempty : emptied.inbox k = [] := by simp [emptied, inbox, Session.setNode, hk]
    have hfollows : Follows s emptied := by
      intro l
      refine ⟨hasStopped_setNode s k l fun _ => rfl, ?_⟩
      by_cases hl : k = l
      · exact .inr (hl ▸ hempty)
      · exact .inl (by simp [emptied, inbox, getElem?_setNode hl])
    have hrest : Follows emptied (each n.inbox (deliver k) emptied).1 :=
      .each (deliver_follows k) n.inbox emptied
    refine ⟨hfollows.trans hrest, ?_⟩
    exact (hrest k).2.elim (·.trans hempty) id

/-- After links have reacted one by one, nothing is left for them. -/
theorem drainAll_inbox (ks : List LinkIndex) (s : Session) (h : ∀ l, l ∉ ks → s.inbox l = []) :
    ∀ l, (each ks drain s).1.inbox l = [] := by
  induction ks generalizing s with
  | nil => exact fun l => h l List.not_mem_nil
  | cons k ks ih =>
    rw [each_cons]
    obtain ⟨hfollows, hk⟩ := drain_follows k s
    refine ih _ fun l hl => ?_
    by_cases hlk : l = k
    · rw [hlk]
      exact hk
    · exact (hfollows l).2.elim (·.trans (h l (by simp [hl, hlk]))) id

theorem Follows.added (s : Session) (link : Link) :
    Follows s { s with nodes := s.nodes ++ [{ link := link }] } := by
  intro l
  rcases Nat.lt_trichotomy l s.nodes.length with hl | rfl | hl
  · simp [hasStopped, inbox, List.getElem?_append_left hl]
  · simp [hasStopped, inbox]
  · have hnone : (s.nodes ++ [{ link := link }])[l]? = none :=
      List.getElem?_eq_none (by simp only [List.length_append, List.length_singleton]; omega)
    simp [hasStopped, inbox, hnone, List.getElem?_eq_none (Nat.le_of_lt hl)]

theorem addLink_follows (config : Link.Config) (s : Session) : Follows s (addLink config s).1 := by
  have hadded := Follows.added s (Link.start config).1
  exact hadded.trans (.each (perform_follows s.nodes.length) _ _)

theorem openLink_follows (name : String) (role : Role) (config : Link.Config) (s : Session) :
    Follows s (openLink name role config s).1 :=
  (addLink_follows config s).trans (.of_nodes rfl)

theorem resume_follows (caller : Caller) (s : Session) : Follows s (resume caller s).1 := by
  unfold resume
  split
  · rename_i k outcome hfind
    cases outcome with
    | error failure => exact .of_nodes rfl
    | ok v =>
      cases ho : k.sequel.opens with
      | none => exact .of_nodes rfl
      | some a => exact (Follows.of_nodes rfl).trans (openLink_follows k.name .member _ _)
  · exact .refl s

/-- A link that has stopped and that nobody holds is at rest, but for what has come to it. -/
theorem AtRest.of_stopped (hstopped : s.hasStopped l) (hheld : s.holds l = false) :
    ∃ n, AtRest l n s ∧ n.stopped ∧ s.inbox l = n.inbox := by
  unfold hasStopped at hstopped
  cases hn : s.nodes[l]? with
  | none => simp [hn] at hstopped
  | some n =>
    rw [hn] at hstopped
    exact ⟨n, ⟨hn, hheld⟩, hstopped, by simp [inbox, hn]⟩

theorem AtRest.inbox_eq (h : AtRest l n s) : s.inbox l = n.inbox := by
  simp [inbox, h.node]

/-- A change that stops no link and leaves links at rest keeps a session orderly. -/
theorem Orderly.of_rest (h : Orderly s) (hs : ∀ l, s'.hasStopped l → s.hasStopped l)
    (hrest : ∀ l n, AtRest l n s → n.stopped → n.inbox = [] → AtRest l n s') : Orderly s' := by
  intro l hl
  obtain ⟨hempty, hheld⟩ := h l (hs l hl)
  obtain ⟨n, hn, hstopped, hinbox⟩ := AtRest.of_stopped (hs l hl) hheld
  have hn' := hrest l n hn hstopped (hinbox ▸ hempty)
  exact ⟨hn'.inbox_eq.trans (hinbox ▸ hempty), hn'.unheld⟩

theorem Calm.orderly (h : Calm s) : Orderly s := fun l hl => ⟨(h l).1, (h l).2 hl⟩

theorem Calm.of_follows (h : Calm s) (hf : Follows s s')
    (hrest : ∀ l n, AtRest l n s → n.stopped → n.inbox = [] → AtRest l n s') : Calm s' := by
  have horderly := h.orderly.of_rest (fun l hl => (hf l).1 ▸ hl) hrest
  exact fun l => ⟨(hf l).2.elim (·.trans (h l).1) id, fun hl => (horderly l hl).2⟩

/-- A link that stops in a calm session is at rest. -/
theorem Calm.retire (h : Calm s) (k : LinkIndex) : Calm (retire k s).1 := by
  unfold Session.retire
  split
  · exact h
  · rename_i n hn
    split
    · exact h
    · rename_i hgoing
      simp only [Bool.or_eq_true, not_or, Bool.not_eq_true] at hgoing
      let ended := s.setNode k fun n => { n with stopped := true }
      have hperformed : Follows ended (Session.each n.link.stop (perform k) ended).1 :=
        .each (perform_follows k) _ _
      have hholds : (Session.each n.link.stop (perform k) ended).1.holds = s.holds :=
        each_perform_holds k n.link.stop ended
      intro l
      have hinbox : ended.inbox l = s.inbox l := inbox_setNode s k l fun _ => rfl
      refine ⟨(hperformed l).2.elim (·.trans (hinbox.trans (h l).1)) id, fun hl => ?_⟩
      rw [hholds]
      rw [(hperformed l).1] at hl
      by_cases hkl : k = l
      · exact hkl ▸ hgoing.2
      · refine (h l).2 ?_
        rwa [hasStopped, getElem?_setNode hkl] at hl

theorem Calm.retireAll (h : Calm s) :
    Calm (Session.each (List.range s.nodes.length) Session.retire s).1 :=
  each_induction (fun k _ _ hc => hc.retire k) h

theorem Calm.ring (h : Calm s) (k : LinkIndex) : Calm (ring k s).1 :=
  h.of_follows (ring_follows k s) fun _ _ hr hstopped _ => (hr.ring hstopped k).rest

theorem Calm.ringAll (h : Calm s) : Calm (Session.each s.due Session.ring s).1 :=
  each_induction (fun k _ _ hc => hc.ring k) h

theorem Calm.resume (h : Calm s) (caller : Caller) : Calm (resume caller s).1 :=
  h.of_follows (resume_follows caller s) fun _ _ hr _ _ => (hr.resume caller).rest

theorem Calm.resumeAll (h : Calm s) : Calm (resumeAll s).1 := by
  have hawake : Calm { s with woken := [] } := h
  exact each_induction (fun caller _ _ hc => hc.resume caller) hawake

theorem Calm.tell (h : Calm s) : Calm (tell s).1 :=
  h.of_follows (.of_nodes rfl) fun _ _ hr _ _ => hr.tell.rest

/-- Once every link has reacted to all that has come to it, an orderly session is calm. -/
theorem Orderly.drainAll (h : Orderly s) :
    Calm (Session.each (List.range s.nodes.length) Session.drain s).1 := by
  have hfollows : Follows s (Session.each (List.range s.nodes.length) Session.drain s).1 :=
    .each (fun k s => (drain_follows k s).1) _ s
  have horderly : Orderly (Session.each (List.range s.nodes.length) Session.drain s).1 :=
    h.of_rest (fun l hl => (hfollows l).1 ▸ hl) fun _ _ hr _ hempty =>
      (hr.each fun k _ hr => hr.drain hempty k).rest
  refine fun l => ⟨drainAll_inbox _ s (fun l hl => ?_) l, fun hl => (horderly l hl).2⟩
  have hnone : s.nodes[l]? = none := List.getElem?_eq_none (by simpa using hl)
  simp [inbox, hnone]

/-- An orderly session that has run until it is idle is calm. -/
theorem Orderly.settleDown (h : Orderly s) : Calm (settleDown s).1 := by
  simp only [Session.settleDown, Change.andThen_fst]
  exact h.drainAll.retireAll.ringAll.resumeAll.retireAll

theorem openAt_stopped (name : String) (role : Role) (e : Hub.Endpoint)
    (address : Except Hub.Misaddressed Address) (s : Session) (l : LinkIndex) :
    (s.openAt name role e address).2.1.hasStopped l = s.hasStopped l := by
  unfold Session.openAt
  split
  · rfl
  · exact (openLink_follows name role _ s l).1

theorem withHandle_stopped (s : Session) (name : String) {f : Handle → Session}
    (hf : ∀ handle, (f handle).hasStopped l = s.hasStopped l) :
    (s.withHandle name f).2.1.hasStopped l = s.hasStopped l := by
  unfold Session.withHandle
  split
  · exact hf _
  · rfl

theorem post_stopped (s : Session) (k l : LinkIndex) (i : Input) :
    (s.post k i).hasStopped l = s.hasStopped l :=
  hasStopped_setNode s k l fun _ => rfl

/-- Links do not stop before they have had the time to react. -/
theorem take_stopped (s : Session) (st : Step) (l : LinkIndex) :
    (s.take st).2.1.hasStopped l = s.hasStopped l := by
  cases st with
  | connect name url verbose delay =>
    simp only [Session.take]
    split
    · rfl
    · exact (openLink_follows name .client _ s l).1
  | send name | askInstance name => exact withHandle_stopped s name fun _ => post_stopped ..
  | subscribe name => exact withHandle_stopped s name fun _ => post_stopped ..
  | clone name => exact withHandle_stopped s name fun _ => rfl
  | askHub name label c opened =>
    refine withHandle_stopped s name fun handle => ?_
    split
    · split
      · exact post_stopped ..
      · rfl
    · rfl
  | openHub name e => exact openAt_stopped ..
  | openInstance name e suffix => exact openAt_stopped ..
  | watch name tag =>
    simp only [Session.take]
    split
    · rfl
    · split <;> rfl
  | transport i event =>
    simp only [Session.take]
    split
    · rfl
    · split
      · exact post_stopped ..
      · rfl
  | drop | abandon | detach | advance | connections | wait => rfl

theorem Orderly.step (h : Orderly s) (held : Bool) (st : Step) : Orderly (s.step held st).2.1 := by
  have htaken : Orderly (s.take st).2.1 :=
    h.of_rest (fun l hl => take_stopped s st l ▸ hl) fun _ _ hr _ _ => (hr.take st).rest
  cases held with
  | true => exact htaken
  | false =>
    simp only [Session.step, Bool.false_eq_true, ↓reduceIte, Change.andThen_fst]
    exact htaken.settleDown.tell.orderly

theorem Orderly.run (h : Orderly s) (sts : List (Bool × Step)) : Orderly (s.run sts).1 := by
  induction sts generalizing s with
  | nil => exact h
  | cons st sts ih => exact ih (h.step st.1 st.2)

/-- In every session the links that have stopped are at rest. -/
theorem run_orderly (sts : List (Bool × Step)) : Orderly (Session.run {} sts).1 :=
  Orderly.run (fun l hl => by cases hl) sts

/-- A link that has stopped stays at rest whatever is done in its session. -/
theorem Orderly.spares (h : Orderly s) (hn : s.nodes[l]? = some n) (hstopped : n.stopped)
    (later : List (Bool × Step)) : Spares l n s (s.run later) := by
  have hl : s.hasStopped l := by simpa [hasStopped, hn] using hstopped
  obtain ⟨hempty, hheld⟩ := h l hl
  have hrest : AtRest l n s := ⟨hn, hheld⟩
  exact hrest.run hstopped (hrest.inbox_eq ▸ hempty) later

end Switchboard.Session
