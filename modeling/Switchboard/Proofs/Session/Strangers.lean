import Switchboard.Proofs.Link.Once
import Switchboard.Proofs.Session.Balanced
import Switchboard.Proofs.Session.Blind

/-!
What a session does for others. Nothing that links do for other callers touches the calls of a
caller, the sockets in use or what has come to a link. A caller who is yet to come is a stranger to
every link: it waits nowhere, and no request of it is on the way.
-/

namespace Switchboard.Session

open Link (Caller Effect Input Moment)

variable {s s' : Session} {x y : Caller} {k l : LinkIndex} {i j : SocketIndex} {E : Epoch}

/-! ### The socket of an epoch -/

/-- The socket of a link for an epoch is the first one there is. -/
theorem socketOf?_eq_some_iff {socket : Socket} :
    s.socketOf? l E = some (i, socket) ↔
      s.sockets[i]? = some socket ∧ (socket.link = l ∧ socket.epoch = E) ∧
        ∀ j < i, ∀ k, s.sockets[j]? = some k → ¬(k.link = l ∧ k.epoch = E) := by
  simp only [socketOf?, Option.map_eq_some_iff, Prod.exists, Prod.mk.injEq]
  constructor
  · rintro ⟨k, j, hfind, rfl, rfl⟩
    obtain ⟨hkey, b, hb, hget, hfirst⟩ := List.find?_eq_some_iff_getElem.mp hfind
    simp only [List.getElem_zipIdx, Nat.zero_add, Prod.mk.injEq] at hget
    obtain ⟨rfl, rfl⟩ := hget
    simp only [Bool.and_eq_true, beq_iff_eq] at hkey
    rw [List.length_zipIdx] at hb
    refine ⟨List.getElem?_eq_getElem hb, hkey, fun j hj k hk => ?_⟩
    obtain ⟨hlt, rfl⟩ := List.getElem?_eq_some_iff.mp hk
    simpa [Decidable.imp_iff_not_or] using hfirst j hj
  · rintro ⟨hget, hkey, hfirst⟩
    obtain ⟨hlt, rfl⟩ := List.getElem?_eq_some_iff.mp hget
    refine ⟨_, _, List.find?_eq_some_iff_getElem.mpr ⟨by simpa using hkey, i, by simpa using hlt,
      by simp, fun j hj => ?_⟩, rfl, rfl⟩
    have hlt' := Nat.lt_trans hj hlt
    simpa [Decidable.imp_iff_not_or] using hfirst j hj _ (List.getElem?_eq_getElem hlt')

/-- Changes of sockets that keep what they are for, and sockets that come later, leave the socket of
an epoch where it is. -/
theorem socketOf?_of_getElem {f : SocketIndex → Socket → Socket} {socket : Socket}
    (h : s.socketOf? l E = some (i, socket))
    (hs : ∀ j k, s.sockets[j]? = some k → s'.sockets[j]? = some (f j k))
    (hf : ∀ j k, (f j k).link = k.link ∧ (f j k).epoch = k.epoch) :
    s'.socketOf? l E = some (i, f i socket) := by
  obtain ⟨hget, hkey, hfirst⟩ := socketOf?_eq_some_iff.mp h
  refine socketOf?_eq_some_iff.mpr ⟨hs i socket hget, ?_, fun j hj k hk => ?_⟩
  · rwa [(hf i socket).1, (hf i socket).2]
  · have hlt := Nat.lt_trans hj (List.getElem?_eq_some_iff.mp hget).1
    have hold := List.getElem?_eq_getElem hlt
    obtain rfl := Option.some.inj ((hs j _ hold).symm.trans hk)
    rw [(hf j _).1, (hf j _).2]
    exact hfirst j hj _ hold

theorem socketOf?_append {socket new : Socket} (h : s.socketOf? l E = some (i, socket))
    (hs : s'.sockets = s.sockets ++ [new]) : s'.socketOf? l E = some (i, socket) := by
  refine socketOf?_of_getElem (f := fun _ k => k) h (fun j k hk => ?_) fun _ _ => ⟨rfl, rfl⟩
  rw [hs, List.getElem?_append_left (List.getElem?_eq_some_iff.mp hk).1, hk]

theorem socketOf?_setSocket {socket : Socket} {f : Socket → Socket}
    (h : s.socketOf? l E = some (i, socket))
    (hf : ∀ k, (f k).link = k.link ∧ (f k).epoch = k.epoch) :
    (s.setSocket j f).socketOf? l E = some (i, if j = i then f socket else socket) := by
  refine socketOf?_of_getElem (f := fun b k => if j = b then f k else k) h (fun b k hk => ?_)
    fun b k => ?_
  · rw [setSocket, List.getElem?_modify, hk]
    split <;> rfl
  · split
    · exact hf k
    · exact ⟨rfl, rfl⟩

/-! ### Effects that do not concern a caller -/

def wakes (x : Caller) : Effect → Bool
  | .settle t => t.caller == x
  | .forget c => c == x
  | _ => false

def callsOf (x : Caller) (s : Session) : List Call := s.calls.filter (·.caller == x)

/-- A link in a session, apart from how often it has published its status. -/
def Node.core (n : Node) : Node := { n with published := 0 }

def cores (s : Session) : List Node := s.nodes.map Node.core

/-- The calls of a caller are as they were, and so are the sockets in use and the links, apart from
what they have published. -/
structure Passes (x : Caller) (s s' : Session) : Prop where
  calls : s'.callsOf x = s.callsOf x
  sockets : ∀ l E i k, s.socketOf? l E = some (i, k) →
    ∃ k', s'.socketOf? l E = some (i, k') ∧ k'.attached = k.attached
  cores : s'.cores = s.cores

theorem Passes.refl (s : Session) : Passes x s s := ⟨rfl, fun _ _ _ k h => ⟨k, h, rfl⟩, rfl⟩

theorem Passes.trans {s'' : Session} (h : Passes x s s') (h' : Passes x s' s'') :
    Passes x s s'' := by
  refine ⟨h'.calls.trans h.calls, fun l E i k hk => ?_, h'.cores.trans h.cores⟩
  obtain ⟨k', hk', ha'⟩ := h.sockets l E i k hk
  obtain ⟨k'', hk'', ha''⟩ := h'.sockets l E i k' hk'
  exact ⟨k'', hk'', ha''.trans ha'⟩

theorem callsOf_map {f : Call → Call} (hf : ∀ c, (f c).caller = c.caller)
    (hs : s'.calls = s.calls.map f) : s'.callsOf x = (s.callsOf x).map f := by
  rw [callsOf, hs, List.filter_map, callsOf]
  congr 2
  funext c
  simp only [Function.comp, hf]

theorem mem_callsOf {c : Call} : c ∈ s.callsOf x ↔ c ∈ s.calls ∧ c.caller = x := by
  simp [callsOf]

theorem callsOf_map_ne {f : Call → Call} (hf : ∀ c, (f c).caller = c.caller)
    (hs : s'.calls = s.calls.map fun c => if c.caller = y then f c else c) (hy : y ≠ x) :
    s'.callsOf x = s.callsOf x := by
  have hcaller : ∀ c, (if c.caller = y then f c else c).caller = c.caller := by
    intro c
    split
    · exact hf c
    · rfl
  rw [callsOf_map hcaller hs]
  refine (List.map_congr_left fun c hc => ?_).trans (List.map_id _)
  exact if_neg fun he => hy (he.symm.trans (mem_callsOf.mp hc).2)

theorem callsOf_settle_ne (s : Session) (hy : y ≠ x) (outcome : Link.Outcome) :
    (s.settle y outcome).callsOf x = s.callsOf x :=
  callsOf_map_ne (fun c => c.settle_caller outcome) rfl hy

theorem cores_setNode (s : Session) (k : LinkIndex) {f : Node → Node}
    (hf : ∀ n, (f n).core = n.core) : (s.setNode k f).cores = s.cores := by
  apply List.ext_getElem?
  intro j
  simp only [cores, setNode, List.getElem?_map, List.getElem?_modify]
  cases s.nodes[j]? with
  | none => rfl
  | some n => by_cases h : k = j <;> simp [h, hf]

/-- An effect that does not settle a caller passes it by. -/
theorem perform_passes {e : Effect} (he : wakes x e = false) (k : LinkIndex) (s : Session) :
    Passes x s (perform k e s).1 where
  calls := by
    cases e with
    | settle t => exact callsOf_settle_ne s (by simpa [wakes] using he) _
    | forget c => exact callsOf_settle_ne s (by simpa [wakes] using he) _
    | connect | publish | notify | log => rfl
    | send epoch id text =>
      simp only [perform]
      split
      · rfl
      · split <;> rfl
    | close epoch =>
      simp only [perform]
      split <;> rfl
  sockets := by
    intro l E i socket h
    cases e with
    | connect epoch url => exact ⟨socket, socketOf?_append h rfl, rfl⟩
    | settle | forget | publish | notify | log => exact ⟨socket, h, rfl⟩
    | send epoch id text =>
      simp only [perform]
      split
      · exact ⟨socket, h, rfl⟩
      · split <;> exact ⟨socket, h, rfl⟩
    | close epoch =>
      simp only [perform]
      split
      · exact ⟨socket, h, rfl⟩
      · refine ⟨_, socketOf?_setSocket h fun _ => ⟨rfl, rfl⟩, ?_⟩
        split <;> rfl
  cores := by
    rcases perform_nodes k e s with h | h
    · rw [cores, h, ← cores]
    · rw [cores, h, ← cores]
      exact cores_setNode s k fun _ => rfl

theorem each_perform_passes {es : List Effect} (h : ∀ e ∈ es, wakes x e = false) (k : LinkIndex)
    (s : Session) : Passes x s (each es (perform k) s).1 :=
  each_induction (fun e he t ht => ht.trans (perform_passes (h e he) k t)) (.refl s)

/-- Effects that tell a caller nothing and forget nobody do not concern the caller. -/
theorem wakes_of_told {es : List Effect} (ht : Link.told x es = []) (hf : .forget x ∉ es) :
    ∀ e ∈ es, wakes x e = false := by
  intro e he
  have hnone := List.filterMap_eq_nil_iff.mp ht e he
  cases e with
  | settle t =>
    refine beq_false_of_ne fun hx => ?_
    simp [Link.Effect.outcomeFor, hx] at hnone
  | forget c => exact beq_false_of_ne fun hx => hf (hx ▸ he)
  | _ => rfl

/-- What a link does at a moment, if it tells a caller nothing. -/
theorem react_wakes {link : Link} (hs : link.Sound) (now : Nat) (m : Moment)
    (ht : Link.told x (link.react now m).2 = []) :
    ∀ e ∈ (link.react now m).2, wakes x e = false := by
  refine wakes_of_told ht fun hf => ?_
  have hseen : .forget x ∈ Link.seen (link.react now m).2 := List.mem_filter.mpr ⟨hf, rfl⟩
  exact (link.react_move now m).forget_not_mem hs x hseen

/-! ### Links that a caller has nothing to do with -/

/-- A caller waits under no id of a link, and no request of the caller is on the way there. -/
def Node.Ignores (x : Caller) (n : Node) : Prop :=
  n.link.pending.idsOf x = [] ∧ ∀ i ∈ n.inbox, (Moment.input i).caller? ≠ some x

def StrangerAt (x : Caller) (s : Session) (m : LinkIndex) : Prop :=
  ∀ n, s.cores[m]? = some n → n.Ignores x

/-- A change at one link, which a caller has nothing to do with, before or after. -/
structure Aside (x : Caller) (k : LinkIndex) (s s' : Session) : Prop where
  calls : s'.callsOf x = s.callsOf x
  sockets : ∀ l E i socket, s.socketOf? l E = some (i, socket) →
    ∃ socket', s'.socketOf? l E = some (i, socket') ∧ socket'.attached = socket.attached
  elsewhere : ∀ m, m ≠ k → s'.cores[m]? = s.cores[m]?
  stranger : StrangerAt x s' k

theorem Passes.aside (h : Passes x s s') (hx : StrangerAt x s k) : Aside x k s s' :=
  ⟨h.calls, h.sockets, fun m _ => by rw [h.cores], fun n hn => hx n (h.cores ▸ hn)⟩

theorem Aside.refl (hx : StrangerAt x s k) : Aside x k s s := (Passes.refl s).aside hx

theorem Aside.trans {s'' : Session} (h : Aside x k s s') (h' : Aside x k s' s'') :
    Aside x k s s'' := by
  refine ⟨h'.calls.trans h.calls, fun l E i socket hk => ?_, fun m hm => ?_, h'.stranger⟩
  · obtain ⟨k', hk', ha'⟩ := h.sockets l E i socket hk
    obtain ⟨k'', hk'', ha''⟩ := h'.sockets l E i k' hk'
    exact ⟨k'', hk'', ha''.trans ha'⟩
  · exact (h'.elsewhere m hm).trans (h.elsewhere m hm)

theorem cores_getElem? (s : Session) (m : LinkIndex) :
    s.cores[m]? = s.nodes[m]?.map Node.core :=
  List.getElem?_map

/-- A link that ignores a caller may change as it likes. -/
theorem Aside.setNode {n : Node} {f : Node → Node} (hn : s.nodes[k]? = some n)
    (hf : (f n).Ignores x) : Aside x k s (s.setNode k f) where
  calls := rfl
  sockets l E i socket h := ⟨socket, h, rfl⟩
  elsewhere m hm := by rw [cores_getElem?, cores_getElem?, getElem?_setNode hm.symm]
  stranger m hm := by
    rw [cores_getElem?, Session.setNode, List.getElem?_modify_eq, hn] at hm
    obtain rfl := Option.some.inj hm
    exact hf

theorem StrangerAt.node {n : Node} (h : StrangerAt x s k) (hn : s.nodes[k]? = some n) :
    n.Ignores x :=
  h n.core (by rw [cores_getElem?, hn]; rfl)

theorem Balanced.sound {n : Node} (h : Balanced s) (hn : s.nodes[k]? = some n) : n.link.Sound :=
  have hs : s.standing[k]? = some (n.link, n.stopped) := by simp [standing, hn]
  ((h k).link _ _ hs).1

/-- What a link goes through that a caller has nothing to do with. -/
theorem StrangerAt.carryOut {n : Node} (h : StrangerAt x s k) (hb : Balanced s)
    (hn : s.nodes[k]? = some n) (now : Nat) {m : Moment} (hm : m.caller? ≠ some x) :
    Aside x k s (carryOut k (n.link.react now m) s).1 := by
  have hs := hb.sound hn
  obtain ⟨hids, hinbox⟩ := h.node hn
  obtain ⟨htold, hafter⟩ := (n.link.react_move now m).absent hs hids hm
  rw [Link.told_seen] at htold
  have hset : Aside x k s (s.setNode k fun n' => { n' with link := (n.link.react now m).1 }) :=
    .setNode hn ⟨hafter, hinbox⟩
  exact hset.trans ((each_perform_passes (react_wakes hs now m htold) k _).aside hset.stranger)

theorem StrangerAt.deliver (h : StrangerAt x s k) (hb : Balanced s) {input : Input}
    (hi : (Moment.input input).caller? ≠ some x) : Aside x k s (deliver k input s).1 := by
  unfold Session.deliver
  split
  · exact .refl h
  · rename_i n hn
    exact h.carryOut hb hn s.now hi

/-- A link reacts aside from those who are strangers to it. -/
theorem StrangerAt.drain (h : StrangerAt x s k) (hb : Balanced s) :
    Aside x k s (drain k s).1 := by
  unfold Session.drain
  split
  · exact .refl h
  · rename_i n hn
    obtain ⟨hids, hinbox⟩ := h.node hn
    have hempty : Aside x k s (s.setNode k fun n => { n with inbox := [] }) :=
      .setNode hn ⟨hids, List.forall_mem_nil _⟩
    have hbalanced : Balanced (s.setNode k fun n => { n with inbox := [] }) :=
      hb.of_same (standing_setNode s k (fun _ => rfl) fun _ => rfl) rfl
    refine (each_induction (P := fun t => Balanced t ∧ Aside x k s t) (fun input hi t ht => ?_)
      ⟨hbalanced, hempty⟩).2
    exact ⟨ht.1.deliver k input, ht.2.trans (ht.2.stranger.deliver ht.1 (hinbox input hi))⟩

theorem StrangerAt.ring (h : StrangerAt x s k) (hb : Balanced s) : Aside x k s (ring k s).1 := by
  unfold Session.ring
  split
  · exact .refl h
  · rename_i n hn
    split
    · exact .refl h
    · exact h.carryOut hb hn s.now (m := .clock) nofun

theorem stop_wakes {link : Link} (h : link.pending.idsOf x = []) :
    ∀ e ∈ link.stop, wakes x e = false := by
  refine wakes_of_told ?_ ?_
  · rw [Link.stop_told, h]
    rfl
  · simp [Link.stop, Link.note]

/-- A link that stops tells no stranger. -/
theorem StrangerAt.retire (h : StrangerAt x s k) : Aside x k s (retire k s).1 := by
  unfold Session.retire
  split
  · exact .refl h
  · rename_i n hn
    split
    · exact .refl h
    · obtain ⟨hids, hinbox⟩ := h.node hn
      have hset : Aside x k s (s.setNode k fun n => { n with stopped := true }) :=
        .setNode hn ⟨hids, hinbox⟩
      exact hset.trans ((each_perform_passes (stop_wakes hids) k _).aside hset.stranger)

/-- A link that is added is a stranger's. -/
theorem openLink_aside (x : Caller) (name : String) (role : Role) (config : Link.Config)
    (s : Session) : Aside x s.nodes.length s (openLink name role config s).1 where
  calls := rfl
  sockets l E i socket h := ⟨socket, socketOf?_append h rfl, rfl⟩
  elsewhere m hm := by
    have hcores : (openLink name role config s).1.cores =
        s.cores ++ [Node.core { link := (Link.start config).1 }] := List.map_append
    rw [hcores]
    rcases Nat.lt_or_gt_of_ne hm with hlt | hgt
    · rw [List.getElem?_append_left (by simpa [cores] using hlt)]
    · rw [List.getElem?_eq_none (by simpa [cores, Nat.succ_le_iff] using hgt),
        List.getElem?_eq_none (by simpa [cores] using Nat.le_of_lt hgt)]
  stranger n hn := by
    have hcores : (openLink name role config s).1.cores =
        s.cores ++ [Node.core { link := (Link.start config).1 }] := List.map_append
    have hlength : s.nodes.length = s.cores.length := by simp [cores]
    rw [hcores, hlength, List.getElem?_concat_length] at hn
    obtain rfl := Option.some.inj hn
    exact ⟨rfl, List.forall_mem_nil _⟩

/-- Where there is no link yet, everybody is a stranger. -/
theorem strangerAt_vacant (x : Caller) (s : Session) : StrangerAt x s s.nodes.length := by
  intro n hn
  rw [cores_getElem?, List.getElem?_eq_none (Nat.le_refl _)] at hn
  cases hn

/-- A call that goes on, of another caller. -/
theorem goOn_aside (hy : y ≠ x) (k : Continuation) (outcome : Link.Outcome) (s : Session) :
    Aside x s.nodes.length s (goOn y k outcome s).1 := by
  let done := s.finish y (.answer (k.sequel.answer outcome))
  have hcalls : done.callsOf x = s.callsOf x :=
    callsOf_map_ne (f := fun c => { c with progress := .done _ }) (fun _ => rfl) rfl hy
  have hdone : Aside x s.nodes.length s done :=
    ⟨hcalls, fun _ _ _ socket h => ⟨socket, h, rfl⟩, fun _ _ => rfl, strangerAt_vacant x s⟩
  unfold goOn
  cases outcome with
  | error failure => exact hdone
  | ok v =>
    cases ho : k.sequel.opens with
    | none => exact hdone
    | some a => exact hdone.trans (openLink_aside x k.name .member _ done)

theorem find?_callsOf (x : Caller) (s : Session) :
    s.calls.find? (·.caller == x) = (s.callsOf x).head? :=
  (List.head?_filter ..).symm

/-- Going on with a call passes by all whose call is not due. -/
theorem resume_aside (hx : y = x → (s.calls.find? (·.caller == x)).bind Call.due? = none) :
    Aside x s.nodes.length s (resume y s).1 := by
  rw [resume_eq]
  split
  · rename_i k outcome hdue
    refine goOn_aside (fun he => ?_) k outcome s
    rw [he, hx he] at hdue
    cases hdue
  · exact .refl (strangerAt_vacant x s)

/-! ### Callers who are yet to come -/

/-- A caller of whom there is no trace in a session. -/
structure Absent (x : Caller) (s : Session) : Prop where
  balanced : Balanced s
  calls : s.callsOf x = []
  links : ∀ m, StrangerAt x s m

theorem Aside.absent (h : Aside x k s s') (hx : Absent x s) (hb : Balanced s') : Absent x s' := by
  refine ⟨hb, h.calls.trans hx.calls, fun m => ?_⟩
  by_cases hm : m = k
  · exact hm ▸ h.stranger
  · exact fun n hn => hx.links m n (h.elsewhere m hm ▸ hn)

/-! ### Running -/

/-- What each change of many keeps is kept by all of them. -/
theorem andThen_each {P : Change → Prop} {xs : List α} {f : α → Session → Change} {c : Change}
    (hf : ∀ x ∈ xs, ∀ c, P c → P (c.andThen (f x))) (h : P c) : P (c.andThen (each xs f)) := by
  rw [← foldl_andThen]
  induction xs generalizing c with
  | nil => exact h
  | cons x xs ih =>
    obtain ⟨hx, hxs⟩ := List.forall_mem_cons.mp hf
    exact ih hxs (hx c h)

def drainAll (s : Session) : Change := each (List.range s.nodes.length) drain s

def retireAll (s : Session) : Change := each (List.range s.nodes.length) retire s

def ringAll (s : Session) : Change := each s.due ring s

/-- The parts of running, one after the other. -/
theorem settleDown_parts (c : Change) :
    c.andThen settleDown = ((((c.andThen drainAll).andThen retireAll).andThen ringAll).andThen
      resumeAll).andThen retireAll := by
  simp only [Change.andThen, settleDown, drainAll, retireAll, ringAll, List.append_assoc]

theorem andThen_resumeAll (c : Change) :
    c.andThen resumeAll =
      Change.andThen ({ c.1 with woken := [] }, c.2) (each c.1.woken resume) := by
  simp only [Change.andThen, resumeAll]

/-- What each part of running keeps, once links have reacted to what has come to them, is kept until
the session is idle. -/
theorem drained_induction {P : Change → Prop} {c : Change}
    (hretire : ∀ k c, P c → P (c.andThen (retire k)))
    (hring : ∀ k c, P c → P (c.andThen (ring k)))
    (hawake : ∀ c, P c → P ({ c.1 with woken := [] }, c.2))
    (hresume : ∀ y c, P c → P (c.andThen (resume y))) (h : P (c.andThen drainAll)) :
    P (c.andThen settleDown) := by
  have hretired : ∀ {c}, P c → P (c.andThen retireAll) :=
    fun hc => andThen_each (fun k _ => hretire k) hc
  have hrung : ∀ {c}, P c → P (c.andThen ringAll) := fun hc => andThen_each (fun k _ => hring k) hc
  have hresumed : ∀ {c}, P c → P (c.andThen resumeAll) := by
    intro c hc
    rw [andThen_resumeAll]
    exact andThen_each (fun y _ => hresume y) (hawake c hc)
  rw [settleDown_parts]
  exact hretired (hresumed (hrung (hretired h)))

/-- What each part of running keeps is kept until the session is idle. -/
theorem settleDown_induction {P : Change → Prop} {c : Change}
    (hdrain : ∀ k c, P c → P (c.andThen (drain k)))
    (hretire : ∀ k c, P c → P (c.andThen (retire k)))
    (hring : ∀ k c, P c → P (c.andThen (ring k)))
    (hawake : ∀ c, P c → P ({ c.1 with woken := [] }, c.2))
    (hresume : ∀ y c, P c → P (c.andThen (resume y))) (h : P c) : P (c.andThen settleDown) :=
  drained_induction hretire hring hawake hresume (andThen_each (fun k _ => hdrain k) h)

theorem Absent.settleDown (h : Absent x s) : Absent x (settleDown s).1 := by
  have hall : Absent x (Change.andThen (s, []) Session.settleDown).1 := by
    refine settleDown_induction (P := fun c => Absent x c.1) (fun k c hc => ?_)
      (fun k c hc => ?_) (fun k c hc => ?_) (fun c hc => ?_) (fun y c hc => ?_) h
    · exact ((hc.links k).drain hc.balanced).absent hc (hc.balanced.drain k)
    · exact (hc.links k).retire.absent hc (hc.balanced.retire k)
    · exact ((hc.links k).ring hc.balanced).absent hc (hc.balanced.ring k)
    · exact ⟨hc.balanced.of_same rfl rfl, hc.calls, hc.links⟩
    · refine (resume_aside fun _ => ?_).absent hc (hc.balanced.resume y)
      rw [find?_callsOf, hc.calls]
      rfl
  simpa only [Change.andThen_fst] using hall

theorem callsOf_tell (x : Caller) (s : Session) :
    (tell s).1.callsOf x = (s.callsOf x).filter (!·.isDone) := by
  simp only [callsOf, tell, List.filter_filter]
  congr 1
  funext c
  exact Bool.and_comm _ _

theorem Absent.tell (h : Absent x s) : Absent x (tell s).1 := by
  refine ⟨h.balanced.tell, ?_, h.links⟩
  rw [callsOf_tell, h.calls]
  rfl

/-! ### Steps -/

/-- What a step does to the sockets and links of a session, before they react: nothing, or it adds a
link, cuts off a socket, or brings an input to a link. -/
inductive Arrives (s : Session) (st : Step) (s' : Session) : Prop
  | nothing (cores : s'.cores = s.cores) (sockets : s'.sockets = s.sockets)
  | link {name : String} {role : Role} {config : Link.Config}
      (session : s' = (s.openLink name role config).1)
  | detached {j : SocketIndex} (step : st = .detach j)
      (session : s' = s.setSocket j fun k => { k with attached := false })
  | request {k : LinkIndex} {r : Message.Request} (callers : s'.callers = s.callers + 1)
      (cores : s'.cores = (s.post k (.request r s.callers)).cores)
      (sockets : s'.sockets = s.sockets)
  | callback {k : LinkIndex} {callback : Link.Callback}
      (cores : s'.cores = (s.post k (.subscribe callback)).cores) (sockets : s'.sockets = s.sockets)
  | event {j : SocketIndex} {event : Link.Event} {socket : Socket} (step : st = .transport j event)
      (owner : s.sockets[j]? = some socket)
      (cores : s'.cores = (s.post socket.link (.transport socket.epoch event)).cores)
      (sockets : s'.sockets = s.sockets)

theorem withHandle_arrives {st : Step} (s : Session) (name : String) {f : Handle → Session}
    (hf : ∀ handle, Arrives s st (f handle)) : Arrives s st (s.withHandle name f).2.1 := by
  unfold withHandle
  split
  · exact hf _
  · exact .nothing rfl rfl

theorem openAt_arrives {st : Step} (s : Session) (name : String) (role : Role) (e : Hub.Endpoint)
    (address : Except Hub.Misaddressed Address) :
    Arrives s st (s.openAt name role e address).2.1 := by
  unfold openAt
  split
  · exact .nothing rfl rfl
  · exact .link rfl

/-- Whatever a step does to sockets and links, it is one of these. -/
theorem take_arrives (s : Session) (st : Step) : Arrives s st (s.take st).2.1 := by
  cases st with
  | connect name url verbose delay =>
    simp only [take]
    split
    · exact .nothing rfl rfl
    · exact .link rfl
  | clone name => exact withHandle_arrives s name fun _ => .nothing rfl rfl
  | send name | askInstance name => exact withHandle_arrives s name fun _ => .request rfl rfl rfl
  | subscribe name => exact withHandle_arrives s name fun _ => .callback rfl rfl
  | watch name tag =>
    simp only [take]
    split
    · exact .nothing rfl rfl
    · split <;> exact .nothing rfl rfl
  | openHub name e => exact openAt_arrives ..
  | openInstance name e suffix => exact openAt_arrives ..
  | askHub name label c opened =>
    refine withHandle_arrives s name fun handle => ?_
    split
    · split
      · exact .request rfl rfl rfl
      · exact .nothing rfl rfl
    · exact .nothing rfl rfl
  | transport j event =>
    simp only [take]
    split
    · exact .nothing rfl rfl
    · rename_i socket hs
      split
      · exact .event rfl hs rfl rfl
      · exact .nothing rfl rfl
  | detach j => exact .detached rfl rfl
  | drop | abandon | advance | connections | wait => exact .nothing rfl rfl

def Node.receive (i : Input) (n : Node) : Node := { n with inbox := n.inbox ++ [i] }

theorem cores_post (s : Session) (k m : LinkIndex) (i : Input) :
    (s.post k i).cores[m]? = s.cores[m]?.map fun n => if k = m then n.receive i else n := by
  rw [cores_getElem?, cores_getElem?, post, setNode, List.getElem?_modify]
  cases s.nodes[m]? with
  | none => rfl
  | some n => by_cases h : k = m <;> simp [h, Node.receive, Node.core]

theorem StrangerAt.post {m : LinkIndex} (h : StrangerAt x s m) (k : LinkIndex) {i : Input}
    (hi : (Moment.input i).caller? ≠ some x) : StrangerAt x (s.post k i) m := by
  intro n hn
  rw [cores_post] at hn
  obtain ⟨n', hn', rfl⟩ := Option.map_eq_some_iff.mp hn
  obtain ⟨hids, hinbox⟩ := h n' hn'
  split
  · refine ⟨hids, fun i' hi' => ?_⟩
    rcases List.mem_append.mp hi' with hi' | hi'
    · exact hinbox i' hi'
    · exact List.mem_singleton.mp hi' ▸ hi
  · exact ⟨hids, hinbox⟩

theorem StrangerAt.of_cores {m : LinkIndex} (h : StrangerAt x s m) (hc : s'.cores = s.cores) :
    StrangerAt x s' m :=
  fun n hn => h n (hc ▸ hn)

theorem take_callers_le (s : Session) (st : Step) : s.callers ≤ (s.take st).2.1.callers := by
  cases take_enrols s st with
  | same _ callers => exact Nat.le_of_eq callers.symm
  | made _ _ callers => exact callers ▸ Nat.le_succ _
  | dropped _ session => exact session ▸ Nat.le_refl _

/-- A step makes no caller known to a link but the one that comes with it. -/
theorem Arrives.stranger {st : Step} {m : LinkIndex} (h : Arrives s st s')
    (hm : StrangerAt x s m) (hx : s'.callers = s.callers + 1 → s.callers ≠ x) :
    StrangerAt x s' m := by
  cases h with
  | nothing cores => exact hm.of_cores cores
  | @link name role config session =>
    subst session
    have haside := openLink_aside x name role config s
    by_cases hnew : m = s.nodes.length
    · exact hnew ▸ haside.stranger
    · exact fun n hn => hm n (haside.elsewhere m hnew ▸ hn)
  | detached _ session =>
    subst session
    exact hm.of_cores rfl
  | @request k r callers cores =>
    have hnew : (Moment.input (.request r s.callers)).caller? ≠ some x := fun hc =>
      hx callers (Option.some.inj hc)
    exact (hm.post k hnew).of_cores cores
  | @callback k callback cores =>
    exact (hm.post k (i := .subscribe callback) nofun).of_cores cores
  | @event _ event socket _ _ cores =>
    exact (hm.post socket.link (i := .transport socket.epoch event) nofun).of_cores cores

def Fresh (s : Session) : Prop := ∀ x, s.callers ≤ x → Absent x s

theorem callsOf_fresh (h : Enrolled s) (hx : s.callers ≤ x) : s.callsOf x = [] := by
  refine List.filter_eq_nil_iff.mpr fun c hc hcaller => ?_
  have hborn := h.born c.entry (List.mem_map_of_mem hc)
  have hx' : c.caller = x := by simpa using hcaller
  exact Nat.not_lt.mpr hx (hx' ▸ hborn)

theorem Fresh.step (h : Fresh s) (he : Enrolled s) (held : Bool) (st : Step) :
    Fresh (s.step held st).2.1 := by
  have htaken : Fresh (s.take st).2.1 := by
    intro x hx
    have hold := h x (Nat.le_trans (take_callers_le s st) hx)
    exact ⟨hold.balanced.take st, callsOf_fresh ((take_enrols s st).enrolled he) hx,
      fun m => (take_arrives s st).stranger (hold.links m) fun hnew => by omega⟩
  cases held with
  | true => exact htaken
  | false =>
    intro x hx
    simp only [Session.step, Bool.false_eq_true, ↓reduceIte, Change.andThen_fst, tell_callers,
      (settleDown_sameCalls _).callers] at hx ⊢
    exact (htaken x hx).settleDown.tell

/-- In every session there is no trace of callers who are yet to come. -/
theorem run_fresh (sts : List (Bool × Step)) : Fresh (Session.run {} sts).1 := by
  have hrun : ∀ {t}, Fresh t → Enrolled t → Fresh (t.run sts).1 := by
    induction sts with
    | nil => exact fun h _ => h
    | cons st sts ih => exact fun h he => ih (h.step he st.1 st.2) (he.step st.1 st.2)
  refine hrun (fun x _ => ⟨run_balanced [], rfl, fun m n hn => ?_⟩) (run_enrolled [])
  exact absurd hn (by simp [cores])

end Switchboard.Session
