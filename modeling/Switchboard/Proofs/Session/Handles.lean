import Switchboard.Proofs.Session.Settling

namespace Switchboard.Session

open Link (Caller Effect Input)

variable {s s' : Session}

def Owned (s : Session) : Prop := ∀ h ∈ s.handles, h.link < s.nodes.length

theorem perform_handles (k : LinkIndex) (e : Effect) (s : Session) :
    (perform k e s).1.handles = s.handles := by
  cases e with
  | connect | settle | forget | publish | notify | log => rfl
  | send epoch id text =>
    simp only [perform]
    split
    · rfl
    · split <;> rfl
  | close epoch =>
    simp only [perform]
    split <;> rfl

theorem Owned.of_same (h : Owned s) (hh : s'.handles = s.handles)
    (hn : s'.nodes.length = s.nodes.length) : Owned s' :=
  fun x hx => hn ▸ h x (hh ▸ hx)

theorem perform_length (k : LinkIndex) (e : Effect) (s : Session) :
    (perform k e s).1.nodes.length = s.nodes.length := by
  have hstanding := congrArg List.length (standing_perform k e s)
  simpa [standing] using hstanding

/-- Links are there for good, whatever becomes of them. -/
theorem robust_owned : Robust Owned where
  setNode _ _ _ h := h.of_same rfl (List.length_modify ..)
  perform k e s h := h.of_same (perform_handles k e s) (perform_length k e s)

theorem Owned.name {h : Handle} (hs : Owned s) (hl : h.link < s.nodes.length) :
    Owned (s.name h) := by
  intro x hx
  rcases List.mem_append.mp hx with hx | hx
  · exact hs x (List.mem_filter.mp hx).1
  · exact List.mem_singleton.mp hx ▸ hl

/-- A new handle is of the link that has been added. -/
theorem Owned.openLink (h : Owned s) (name : String) (role : Role) (config : Link.Config) :
    Owned (openLink name role config s).1 := by
  let added : Session := { s with nodes := s.nodes ++ [{ link := (Link.start config).1 }] }
  have hlength : added.nodes.length = s.nodes.length + 1 := List.length_append
  have hadded : Owned added := fun x hx => hlength ▸ Nat.lt_succ_of_lt (h x hx)
  have hmade : (each (Link.start config).2 (perform s.nodes.length) added).1.nodes.length =
      s.nodes.length + 1 := by
    have hstanding := congrArg List.length
      (standing_each_perform s.nodes.length (Link.start config).2 added)
    simpa [standing, hlength] using hstanding
  have hall : Owned (addLink config s).1 :=
    each_induction (fun e _ t ht => robust_owned.perform s.nodes.length e t ht) hadded
  exact hall.name (hmade ▸ Nat.lt_succ_self _)

theorem Owned.resume (h : Owned s) (x : Caller) : Owned (resume x s).1 := by
  rw [resume_eq]
  split
  · rename_i k outcome _
    have hdone : Owned (s.finish x (.answer (k.sequel.answer outcome))) := h
    unfold goOn
    cases outcome with
    | error failure => exact hdone
    | ok v =>
      cases k.sequel.opens with
      | none => exact hdone
      | some a => exact hdone.openLink k.name .member _
  · exact h

theorem Owned.settleDown (h : Owned s) : Owned (settleDown s).1 := by
  have hdrained : Owned (drainAll s).1 :=
    each_induction (fun k _ _ ht => robust_owned.drain k ht) h
  have hresumed : ∀ {t}, Owned t → Owned (resumeAll t).1 := fun ht =>
    each_induction (P := Owned) (fun x _ _ ht => ht.resume x) ht
  rw [settleDown_eq, Change.andThen_fst, Change.andThen_fst, reacted, Change.andThen_fst,
    Change.andThen_fst]
  exact robust_owned.retireAll (hresumed (robust_owned.ringAll (robust_owned.retireAll hdrained)))

theorem withHandle_owned (h : Owned s) (name : String) {f : Handle → Session}
    (hf : ∀ x, x.link < s.nodes.length → Owned (f x)) : Owned (s.withHandle name f).2.1 := by
  unfold withHandle
  split
  · rename_i x hx
    exact hf x (h x (List.mem_of_find?_eq_some hx))
  · exact h

theorem openAt_owned (h : Owned s) (name : String) (role : Role) (e : Hub.Endpoint)
    (address : Except Hub.Misaddressed Address) : Owned (s.openAt name role e address).2.1 := by
  unfold openAt
  split
  · exact h
  · exact Owned.openLink h name role _

theorem Owned.post (h : Owned s) (k : LinkIndex) (i : Input) : Owned (s.post k i) :=
  robust_owned.setNode k _ s h

theorem Owned.take (h : Owned s) (st : Step) : Owned (s.take st).2.1 := by
  cases st with
  | connect name url verbose delay =>
    simp only [Session.take]
    split
    · exact h
    · exact h.openLink name .client _
  | clone name copy => exact withHandle_owned h name fun x hx => h.name hx
  | drop name => exact fun x hx => h x (List.mem_filter.mp hx).1
  | send name | askInstance name => exact withHandle_owned h name fun x _ => h.post x.link _
  | subscribe name tag => exact withHandle_owned h name fun x _ => h.post x.link _
  | watch name tag =>
    simp only [Session.take]
    split
    · exact h
    · split <;> exact h
  | openHub name e => exact openAt_owned h name (.hub e) e e.control
  | openInstance name e suffix => exact openAt_owned h name .member e (e.instanceAt suffix)
  | askHub name label c opened =>
    refine withHandle_owned h name fun x _ => ?_
    split
    · split
      · exact h.post x.link _
      · exact h
    · exact h
  | transport i event =>
    simp only [Session.take]
    split
    · exact h
    · split
      · exact h.post _ _
      · exact h
  | abandon | detach | advance | connections | wait => exact h

end Switchboard.Session
