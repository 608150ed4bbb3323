import Mathlib.Data.List.Nodup
import Switchboard.Proofs.Session.Balanced
import Switchboard.Proofs.Session.Callers

namespace Switchboard.Session

open Link (Caller Effect Input Moment)

/-- The addresses of the first connections of links, in the order they were made. -/
def firsts (s : Session) : List String := (s.sockets.filter (·.epoch == 1)).map (·.url)

def firstsOf (es : List Effect) : List String :=
  ((Link.connects es).filter (·.1 == 1)).map (·.2)

def Begun (s : Session) : Prop := ∀ n ∈ s.nodes, 1 ≤ n.link.epoch

/-- A change in which no link makes its first connection. -/
structure Steady (s s' : Session) : Prop where
  begun : Begun s'
  firsts : s'.firsts = s.firsts

variable {s s' : Session} {k : LinkIndex} {n : Node}

theorem Steady.refl (h : Begun s) : Steady s s := ⟨h, rfl⟩

theorem Steady.trans {s'' : Session} (h : Steady s s') (h' : Steady s' s'') : Steady s s'' :=
  ⟨h'.begun, h'.firsts.trans h.firsts⟩

theorem Steady.of_same (h : Begun s) (hn : s'.nodes = s.nodes) (hk : s'.sockets = s.sockets) :
    Steady s s' :=
  ⟨fun n hm => h n (hn ▸ hm), by rw [Session.firsts, hk, ← Session.firsts]⟩

theorem Steady.each {f : α → Session → Change} {xs : List α} (h : Begun s)
    (hf : ∀ x ∈ xs, ∀ s, Begun s → Steady s (f x s).1) : Steady s (each xs f s).1 :=
  each_induction (fun x hx t ht => ht.trans (hf x hx t ht.begun)) (.refl h)

theorem Steady.then {c : Change} {f : Session → Change} (h : Steady s c.1)
    (hf : ∀ {t}, Begun t → Steady t (f t).1) : Steady s (c.andThen f).1 :=
  h.trans (hf h.begun)

/-- Lists with the same keys have the same values, if elements of one key have. -/
theorem filterMap_eq_of_keys {keyOf : α → γ} {keyOf' : β → γ} {f : α → Option δ}
    {g : β → Option δ} {xs : List α} {ys : List β} (hkeys : xs.map keyOf = ys.map keyOf')
    (hfg : ∀ a ∈ xs, ∀ b ∈ ys, keyOf a = keyOf' b → f a = g b) :
    xs.filterMap f = ys.filterMap g := by
  induction xs generalizing ys with
  | nil =>
    obtain rfl := List.map_eq_nil_iff.mp hkeys.symm
    rfl
  | cons a xs ih =>
    cases ys with
    | nil => cases hkeys
    | cons b ys =>
      obtain ⟨hkey, hkeys⟩ := List.cons.inj hkeys
      have hrest := ih hkeys fun a' ha b' hb =>
        hfg a' (List.mem_cons_of_mem _ ha) b' (List.mem_cons_of_mem _ hb)
      rw [List.filterMap_cons, List.filterMap_cons, hrest,
        hfg a List.mem_cons_self b List.mem_cons_self hkey]

theorem filterMap_congr_mem {f g : α → Option β} {xs : List α} (h : ∀ a ∈ xs, f a = g a) :
    xs.filterMap f = xs.filterMap g :=
  filterMap_eq_of_keys (rfl : xs.map id = xs.map id) fun a ha _ _ he =>
    (h a ha).trans (congrArg g he)

/-- The values of a list with one element for each key, that of one key first. -/
theorem filterMap_perm_key {keyOf : α → Caller} {f : α → Option β} {xs : List α}
    (h : (xs.map keyOf).Nodup) (x : Caller) :
    (xs.filterMap f).Perm (((xs.find? (keyOf · == x)).bind f).toList ++
      xs.filterMap fun a => if keyOf a = x then none else f a) := by
  induction xs with
  | nil => exact .refl _
  | cons a xs ih =>
    obtain ⟨ha, hxs⟩ := List.nodup_cons.mp h
    by_cases hx : keyOf a = x
    · have hrest : (xs.filterMap fun b => if keyOf b = x then none else f b) = xs.filterMap f :=
        filterMap_congr_mem fun b hb =>
          if_neg fun hbx => ha (List.mem_map.mpr ⟨b, hb, hbx.trans hx.symm⟩)
      rw [List.find?_cons_of_pos (by simpa using hx), List.filterMap_cons (a := a) (l := xs),
        List.filterMap_cons, if_pos hx, hrest, Option.bind_some]
      cases f a <;> exact .refl _
    · rw [List.find?_cons_of_neg (by simpa using hx), List.filterMap_cons (a := a) (l := xs),
        List.filterMap_cons, if_neg hx]
      cases f a with
      | none => exact ih hxs
      | some b => exact ((ih hxs).cons b).trans List.perm_middle.symm

theorem firsts_setSocket (s : Session) (j : SocketIndex) {f : Socket → Socket}
    (hf : ∀ k, (f k).epoch = k.epoch ∧ (f k).url = k.url) :
    (s.setSocket j f).firsts = s.firsts := by
  simp only [firsts, setSocket]
  induction s.sockets generalizing j with
  | nil => simp
  | cons k ks ih =>
    cases j with
    | zero => by_cases hk : k.epoch = 1 <;> simp [hk, hf]
    | succ j => by_cases hk : k.epoch = 1 <;> simp [hk, ih j]

/-- An effect makes a first connection just if it connects a first epoch. -/
theorem perform_firsts (k : LinkIndex) (e : Effect) (s : Session) :
    (perform k e s).1.firsts = s.firsts ++ firstsOf [e] := by
  cases e with
  | connect E url => by_cases hE : E = 1 <;> simp [perform, firsts, firstsOf, Link.connects,
      Link.Effect.connection?, hE]
  | settle | forget | publish | notify | log => exact (List.append_nil _).symm
  | send E id text =>
    rw [firsts, perform_sockets rfl]
    exact (List.append_nil _).symm
  | close E =>
    simp only [perform]
    split
    · exact (List.append_nil _).symm
    · rename_i i _ _
      have hsame := firsts_setSocket s i (f := fun k => { k with closed := true })
        fun _ => ⟨rfl, rfl⟩
      exact hsame.trans (List.append_nil _).symm

theorem firstsOf_append (es fs : List Effect) :
    firstsOf (es ++ fs) = firstsOf es ++ firstsOf fs := by
  simp [firstsOf]

theorem each_perform_firsts (k : LinkIndex) (es : List Effect) (s : Session) :
    (each es (perform k) s).1.firsts = s.firsts ++ firstsOf es := by
  induction es generalizing s with
  | nil => exact (List.append_nil _).symm
  | cons e es ih =>
    have hcons : firstsOf (e :: es) = firstsOf [e] ++ firstsOf es := firstsOf_append [e] es
    rw [each_cons, Change.andThen_fst, ih, perform_firsts, hcons, List.append_assoc]

theorem Begun.setNode (h : Begun s) {f : Node → Node}
    (hf : ∀ n, s.nodes[k]? = some n → 1 ≤ n.link.epoch → 1 ≤ (f n).link.epoch) :
    Begun (s.setNode k f) := by
  intro n hn
  obtain ⟨i, hi⟩ := List.mem_iff_getElem?.mp hn
  rw [Session.setNode, List.getElem?_modify] at hi
  obtain ⟨m, hm, hmn⟩ := Option.map_eq_some_iff.mp hi
  have hbegun := h m (List.mem_of_getElem? hm)
  by_cases hk : k = i
  · rw [if_pos hk] at hmn
    exact hmn ▸ hf m (hk ▸ hm) hbegun
  · rw [if_neg hk] at hmn
    exact hmn ▸ hbegun

/-- Effects take no link back before its first epoch. -/
theorem Begun.each_perform (h : Begun s) (k : LinkIndex) (es : List Effect) :
    Begun (Session.each es (perform k) s).1 := by
  intro n hn
  have hm : (n.link, n.stopped) ∈ (Session.each es (perform k) s).1.standing :=
    List.mem_map_of_mem hn
  rw [standing_each_perform] at hm
  obtain ⟨m, hm, he⟩ := List.mem_map.mp hm
  exact (Prod.mk.inj he).1 ▸ h m hm

/-- A link that has begun makes no first connection in its reaction to a moment. -/
theorem firstsOf_react {l : Link} (h : 1 ≤ l.epoch) (now : Nat) (m : Moment) :
    firstsOf (l.react now m).2 = [] := by
  have hmade := (l.react_move now m).passage.connects
  rw [Link.connects_seen] at hmade
  rw [firstsOf, hmade, List.filter_eq_nil_iff.mpr, List.map_nil]
  intro made hm
  obtain ⟨E, hE, rfl⟩ := List.mem_map.mp hm
  have hlater : l.epoch + 1 ≤ E := (List.mem_range'_1.mp hE).1
  have hne : E ≠ 1 := Nat.ne_of_gt (Nat.lt_of_lt_of_le (Nat.succ_le_succ h) hlater)
  simpa using hne

theorem carryOut_steady (h : Begun s) (hn : s.nodes[k]? = some n) (now : Nat) (m : Moment) :
    Steady s (carryOut k (n.link.react now m) s).1 := by
  have hbegun : 1 ≤ n.link.epoch := h n (List.mem_of_getElem? hn)
  have hset : Begun (s.setNode k fun n' => { n' with link := (n.link.react now m).1 }) :=
    h.setNode fun _ _ _ => Nat.le_trans hbegun (n.link.react_move now m).epoch_le
  refine ⟨hset.each_perform k _, ?_⟩
  have hfirsts := each_perform_firsts k (n.link.react now m).2
    (s.setNode k fun n' => { n' with link := (n.link.react now m).1 })
  rwa [firstsOf_react hbegun, List.append_nil] at hfirsts

theorem deliver_steady (h : Begun s) (k : LinkIndex) (i : Input) : Steady s (deliver k i s).1 := by
  unfold deliver
  split
  · exact .refl h
  · rename_i n hn
    exact carryOut_steady h hn s.now (.input i)

/-- Links that react make no first connections, however often they connect again. -/
theorem drain_steady (h : Begun s) (k : LinkIndex) : Steady s (drain k s).1 := by
  unfold drain
  split
  · exact .refl h
  · rename_i n _
    have hemptied : Begun (s.setNode k fun n => { n with inbox := [] }) :=
      h.setNode fun _ _ hn => hn
    have hall := Steady.each hemptied (fun i (_ : i ∈ n.inbox) _ ht => deliver_steady ht k i)
    exact ⟨hall.begun, hall.firsts⟩

theorem retire_steady (h : Begun s) (k : LinkIndex) : Steady s (retire k s).1 := by
  unfold retire
  split
  · exact .refl h
  · split
    · exact .refl h
    · rename_i n _ _
      have hset : Begun (s.setNode k fun n => { n with stopped := true }) :=
        h.setNode fun _ _ hn => hn
      have hfirsts := each_perform_firsts k n.link.stop
        (s.setNode k fun n => { n with stopped := true })
      rw [firstsOf, Link.connects_stop, List.filter_nil, List.map_nil, List.append_nil] at hfirsts
      exact ⟨hset.each_perform k _, hfirsts⟩

theorem ring_steady (h : Begun s) (k : LinkIndex) : Steady s (ring k s).1 := by
  unfold ring
  split
  · exact .refl h
  · rename_i n hn
    split
    · exact .refl h
    · exact carryOut_steady h hn s.now .clock

/-- A change in which some links are added, by the addresses of their first connections. -/
structure Adds (urls : List String) (s s' : Session) : Prop where
  begun : Begun s'
  firsts : s'.firsts = s.firsts ++ urls

theorem Steady.adds (h : Steady s s') : Adds [] s s' :=
  ⟨h.begun, h.firsts.trans (List.append_nil _).symm⟩

theorem Adds.steady {urls : List String} {s'' : Session} (h : Adds urls s s')
    (h' : Steady s' s'') : Adds urls s s'' :=
  ⟨h'.begun, h'.firsts.trans h.firsts⟩

/-- A link that is opened makes its first connection at its address. -/
theorem openLink_adds (h : Begun s) (name : String) (role : Role) (config : Link.Config) :
    Adds [config.url] s (openLink name role config s).1 := by
  let added : Session := { s with nodes := s.nodes ++ [{ link := (Link.start config).1 }] }
  have hadded : Begun added := by
    intro n hn
    rcases List.mem_append.mp hn with hn | hn
    · exact h n hn
    · obtain rfl := List.mem_singleton.mp hn
      exact Nat.le_refl 1
  exact ⟨hadded.each_perform s.nodes.length (Link.start config).2,
    each_perform_firsts s.nodes.length (Link.start config).2 added⟩

def Continuation.opening? (k : Continuation) (outcome : Link.Outcome) : Option String :=
  match outcome with
  | .ok _ => k.sequel.opens.map (·.text)
  | .error _ => none

/-- A call that goes on opens the link it is to open. -/
theorem goOn_adds (h : Begun s) (x : Caller) (k : Continuation) (outcome : Link.Outcome) :
    Adds (k.opening? outcome).toList s (goOn x k outcome s).1 := by
  have hdone : Steady s (s.finish x (.answer (k.sequel.answer outcome))) := .of_same h rfl rfl
  unfold goOn
  cases outcome with
  | error failure => exact hdone.adds
  | ok v =>
    simp only [Continuation.opening?]
    cases ho : k.sequel.opens with
    | none => exact hdone.adds
    | some a =>
      have hopened := openLink_adds hdone.begun k.name .member
        { url := a.text, verbose := k.verbose }
      exact ⟨hopened.begun, hopened.firsts⟩

def Call.opening? (c : Call) : Option String := c.due?.bind fun (k, outcome) => k.opening? outcome

theorem Enrolled.nodup (h : Enrolled s) : (s.calls.map (·.caller)).Nodup := by
  have hsingle := h.single
  rwa [roll, List.map_map] at hsingle

theorem Enrolled.find? (h : Enrolled s) {c : Call} (hc : c ∈ s.calls) :
    s.calls.find? (·.caller == c.caller) = some c := by
  cases hfind : s.calls.find? (·.caller == c.caller) with
  | none =>
    have hnone := List.find?_eq_none.mp hfind c hc
    exact absurd (beq_self_eq_true c.caller) hnone
  | some d =>
    have hkey := List.find?_some hfind
    have hcaller : d.caller = c.caller := by simpa using hkey
    exact congrArg some
      (List.inj_on_of_nodup_map h.nodup (List.mem_of_find?_eq_some hfind) hc hcaller)

/-- A call that has its turn opens its link if it is due. -/
theorem resume_adds (h : Begun s) (x : Caller) :
    Adds ((s.calls.find? (·.caller == x)).bind Call.opening?).toList s (resume x s).1 := by
  have hopening : (s.calls.find? (·.caller == x)).bind Call.opening? =
      ((s.calls.find? (·.caller == x)).bind Call.due?).bind fun (k, outcome) =>
        k.opening? outcome :=
    (Option.bind_assoc ..).symm
  rw [hopening, resume_eq]
  cases (s.calls.find? (·.caller == x)).bind Call.due? with
  | none => exact (Steady.refl h).adds
  | some due => exact goOn_adds h x due.1 due.2

/-- A call that has had its turn is due no more, and the others are as they were. -/
theorem resume_rest (he : Enrolled s) (x : Caller) {f : Call → Option String}
    (hf : ∀ c, c.due? = none → f c = none) :
    (resume x s).1.calls.filterMap f =
      s.calls.filterMap fun c => if c.caller = x then none else f c := by
  rw [resume_eq]
  cases hdue : (s.calls.find? (·.caller == x)).bind Call.due? with
  | none =>
    refine filterMap_congr_mem fun c hc => ?_
    by_cases hx : c.caller = x
    · rw [← hx, he.find? hc] at hdue
      rw [if_pos hx]
      exact hf c hdue
    · rw [if_neg hx]
  | some due =>
    rw [goOn_calls, finish, List.filterMap_map]
    refine filterMap_congr_mem fun c _ => ?_
    by_cases hx : c.caller = x
    · simp only [Function.comp, hx, ↓reduceIte]
      exact hf _ (by simp [Call.due?])
    · simp only [Function.comp, hx, ↓reduceIte]

theorem Call.opening?_of_not_due {c : Call} (h : c.due? = none) : c.opening? = none := by
  simp [opening?, h]

/-- Links that are added one after the other are added together, in any order. -/
theorem Adds.andThen {urls more : List String} {s'' : Session} (h : Adds urls s s')
    (h' : Adds more s' s'') : Adds (urls ++ more) s s'' :=
  ⟨h'.begun, by rw [h'.firsts, h.firsts, List.append_assoc]⟩

/-- The callers that have their turn open the links that their calls are due to open, once each. -/
theorem turns_add (he : Enrolled s) (hb : Begun s) (callers : List Caller) :
    ∃ urls, Adds urls s (each callers resume s).1 ∧
      urls.Perm (s.calls.filterMap fun c => if c.caller ∈ callers then c.opening? else none) := by
  induction callers generalizing s with
  | nil => exact ⟨[], (Steady.refl hb).adds, by simp⟩
  | cons x callers ih =>
    have hfirst := resume_adds hb x
    obtain ⟨urls, hadds, hperm⟩ := ih ((resume_sameCalls x s).enrolled he) hfirst.begun
    rw [each_cons, Change.andThen_fst]
    refine ⟨_, hfirst.andThen hadds, ?_⟩
    rw [resume_rest he x fun c hc => by rw [Call.opening?_of_not_due hc, ite_self]] at hperm
    let f (c : Call) : Option String := if c.caller ∈ x :: callers then c.opening? else none
    have hsplit := filterMap_perm_key (f := f) he.nodup x
    have hfound : (s.calls.find? (·.caller == x)).bind f =
        (s.calls.find? (·.caller == x)).bind Call.opening? := by
      cases hfind : s.calls.find? (·.caller == x) with
      | none => rfl
      | some c =>
        have hkey := List.find?_some hfind
        have hcaller : c.caller = x := by simpa using hkey
        simp [f, hcaller]
    have hothers : (s.calls.filterMap fun c => if c.caller = x then none else f c) =
        s.calls.filterMap fun c => if c.caller = x then none else
          if c.caller ∈ callers then c.opening? else none := by
      refine filterMap_congr_mem fun c _ => ?_
      by_cases hx : c.caller = x <;> simp [f, hx]
    rw [hfound, hothers] at hsplit
    exact (hperm.append_left _).trans hsplit.symm

/-- When calls go on, each call that is due opens the link it is to open. -/
theorem resumeAll_adds (he : Enrolled s) (hb : Begun s)
    (hwoken : ∀ c ∈ s.calls, c.due? ≠ none → c.caller ∈ s.woken) :
    ∃ urls, Adds urls s (resumeAll s).1 ∧ urls.Perm (s.calls.filterMap Call.opening?) := by
  obtain ⟨urls, hadds, hperm⟩ := turns_add (s := { s with woken := [] }) ⟨he.born, he.single⟩ hb
    s.woken
  refine ⟨urls, ⟨hadds.begun, hadds.firsts⟩, hperm.trans (.of_eq ?_)⟩
  refine filterMap_congr_mem fun c hc => ?_
  by_cases hdue : c.due? = none
  · rw [Call.opening?_of_not_due hdue, ite_self]
  · rw [if_pos (hwoken c hc hdue)]

end Switchboard.Session
