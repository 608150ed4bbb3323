import Switchboard.Session.Step

namespace Switchboard.Session

open Link (Caller Effect)

def Note.socket? : Note → Option SocketIndex
  | .connected i _ => some i
  | .sent i _ => some i
  | .closed i => some i
  | _ => none

def owners (s : Session) : List LinkIndex := s.sockets.map (·.link)

def run (s : Session) : List (Bool × Step) → Change
  | [] => (s, [])
  | (held, st) :: rest => (s.step held st).2.andThen fun s => run s rest

/-- A link that nobody holds, as it is. -/
structure AtRest (l : LinkIndex) (n : Node) (s : Session) : Prop where
  node : s.nodes[l]? = some n
  unheld : s.holds l = false

/-- A change that leaves a link at rest. All notes on sockets are about those of other links. -/
structure Spares (l : LinkIndex) (n : Node) (s : Session) (c : Change) : Prop where
  rest : AtRest l n c.1
  owners : s.owners <+: c.1.owners
  notes : ∀ note ∈ c.2, ∀ i, note.socket? = some i → ∃ k, c.1.owners[i]? = some k ∧ k ≠ l

variable {s s' : Session} {c : Change} {k l : LinkIndex} {n : Node}

theorem Change.andThen_fst (c : Change) (f : Session → Change) : (c.andThen f).1 = (f c.1).1 := rfl

theorem foldl_andThen (xs : List α) (f : α → Session → Change) (c : Change) :
    xs.foldl (fun c x => c.andThen (f x)) c = c.andThen (each xs f) := by
  induction xs generalizing c with
  | nil => simp [each, Change.andThen]
  | cons x xs ih =>
    have heach : ∀ s, each (x :: xs) f s =
        Change.andThen (Change.andThen (s, []) (f x)) (each xs f) := fun s => ih _
    rw [List.foldl_cons, ih]
    simp [Change.andThen, heach]

theorem each_cons (x : α) (xs : List α) (f : α → Session → Change) (s : Session) :
    each (x :: xs) f s = (f x s).andThen (each xs f) := by
  rw [each, List.foldl_cons, foldl_andThen]
  simp [Change.andThen]

/-- What holds of a session and is kept by each change holds after all of them. -/
theorem each_induction {P : Session → Prop} {xs : List α} {f : α → Session → Change}
    (hf : ∀ x ∈ xs, ∀ s, P s → P (f x s).1) {s : Session} (h : P s) : P (each xs f s).1 := by
  induction xs generalizing s with
  | nil => exact h
  | cons x xs ih =>
    rw [each_cons]
    obtain ⟨hx, hxs⟩ := List.forall_mem_cons.mp hf
    exact ih hxs (hx s h)

theorem each_append (xs ys : List α) (f : α → Session → Change) (s : Session) :
    (each (xs ++ ys) f s).1 = (each ys f (each xs f s).1).1 := by
  rw [each, List.foldl_append, foldl_andThen]
  rfl

theorem getElem?_of_prefix {xs ys : List α} {i : Nat} {a : α} (h : xs <+: ys)
    (ha : xs[i]? = some a) : ys[i]? = some a := by
  obtain ⟨zs, rfl⟩ := h
  rw [List.getElem?_append_left (List.getElem?_eq_some_iff.mp ha).1, ha]

theorem Spares.refl (h : AtRest l n s) : Spares l n s (s, []) :=
  ⟨h, List.prefix_refl _, nofun⟩

theorem Spares.andThen {f : Session → Change} (hc : Spares l n s c)
    (hf : AtRest l n c.1 → Spares l n c.1 (f c.1)) : Spares l n s (c.andThen f) := by
  have hd := hf hc.rest
  refine ⟨hd.rest, hc.owners.trans hd.owners, fun note hnote i hi => ?_⟩
  rcases List.mem_append.mp hnote with hnote | hnote
  · obtain ⟨k, hk, hne⟩ := hc.notes note hnote i hi
    exact ⟨k, getElem?_of_prefix hd.owners hk, hne⟩
  · exact hd.notes note hnote i hi

theorem AtRest.each {f : α → Session → Change} {xs : List α} (h : AtRest l n s)
    (hf : ∀ x s, AtRest l n s → Spares l n s (f x s)) : Spares l n s (each xs f s) := by
  induction xs generalizing s with
  | nil => exact .refl h
  | cons x xs ih =>
    rw [each_cons]
    exact (hf x s h).andThen ih

theorem socketOf?_some {epoch : Epoch} {i : SocketIndex} {socket : Socket}
    (h : s.socketOf? l epoch = some (i, socket)) :
    s.sockets[i]? = some socket ∧ socket.link = l ∧ socket.epoch = epoch := by
  obtain ⟨⟨k, j⟩, hfind, he⟩ := Option.map_eq_some_iff.mp h
  have hmem := List.mem_zipIdx_iff_getElem?.mp (List.mem_of_find?_eq_some hfind)
  have hkey := List.find?_some hfind
  simp only [Bool.and_eq_true, beq_iff_eq] at hkey
  obtain ⟨rfl, rfl⟩ := Prod.mk.inj he
  exact ⟨hmem, hkey⟩

theorem socketOf?_none {epoch : Epoch} (h : s.socketOf? l epoch = none) :
    ∀ k ∈ s.sockets, ¬(k.link = l ∧ k.epoch = epoch) := by
  intro k hk
  obtain ⟨j, hj⟩ := List.mem_iff_getElem?.mp hk
  have hnone := List.find?_eq_none.mp (Option.map_eq_none_iff.mp h)
  simpa using hnone (k, j) (List.mem_zipIdx_iff_getElem?.mpr hj)

theorem owner_of_socketOf? {epoch : Epoch} {i : SocketIndex} {socket : Socket}
    (h : s.socketOf? l epoch = some (i, socket)) : s.owners[i]? = some l := by
  obtain ⟨hi, hlink, -⟩ := socketOf?_some h
  rw [owners, List.getElem?_map, hi]
  exact congrArg some hlink

theorem owners_setSocket (s : Session) (i : SocketIndex) {f : Socket → Socket}
    (hf : ∀ k, (f k).link = k.link) : (s.setSocket i f).owners = s.owners := by
  apply List.ext_getElem?
  intro j
  simp only [owners, setSocket, List.getElem?_map, List.getElem?_modify]
  cases s.sockets[j]? with
  | none => rfl
  | some k => by_cases h : i = j <;> simp [h, hf]

theorem holds_settle (s : Session) (caller : Caller) (outcome : Link.Outcome) :
    (s.settle caller outcome).holds = s.holds := by
  funext l
  simp only [holds, settle, List.any_map]
  congr 2
  funext c
  simp only [Function.comp]
  split
  · unfold Call.settle
    split <;> simp_all [Call.isDone]
  · rfl

theorem getElem?_setNode (hk : k ≠ l) (f : Node → Node) :
    (s.setNode k f).nodes[l]? = s.nodes[l]? := by
  simp [setNode, hk]

/-- A link at rest that is left as it is, and that nobody takes hold of, is at rest. -/
theorem AtRest.of_eq (h : AtRest l n s) (hn : s'.nodes[l]? = s.nodes[l]?)
    (hh : s'.holds = s.holds) : AtRest l n s' :=
  ⟨hn.trans h.node, (congrFun hh l).trans h.unheld⟩

/-- A change that shows nothing on sockets. -/
theorem Spares.quiet {notes : List Note} (h : AtRest l n s')
    (ho : s.owners <+: s'.owners) (hnotes : ∀ note ∈ notes, note.socket? = none) :
    Spares l n s (s', notes) := by
  refine ⟨h, ho, fun note hm i hi => ?_⟩
  rw [hnotes note hm] at hi
  cases hi

/-- A change that shows something on a socket of another link. -/
theorem Spares.other {note : Note} {i : SocketIndex} (h : AtRest l n s')
    (ho : s.owners <+: s'.owners) (hi : note.socket? = some i) (hown : s'.owners[i]? = some k)
    (hk : k ≠ l) : Spares l n s (s', [note]) := by
  refine ⟨h, ho, fun note' hm j hj => ?_⟩
  obtain rfl := List.mem_singleton.mp hm
  obtain rfl := Option.some.inj (hi.symm.trans hj)
  exact ⟨k, hown, hk⟩

/-- Carrying out what one link does spares the others. -/
theorem AtRest.perform (h : AtRest l n s) (hk : k ≠ l) (e : Effect) :
    Spares l n s (perform k e s) := by
  have hsame : s.owners <+: s.owners := List.prefix_refl _
  cases e with
  | connect epoch url =>
    have hown : (Session.perform k (.connect epoch url) s).1.owners = s.owners ++ [k] := by
      simp [Session.perform, owners]
    have hnew : (s.owners ++ [k])[s.sockets.length]? = some k := by simp [owners]
    exact .other (h.of_eq rfl rfl) (hown ▸ List.prefix_append _ _) rfl (hown ▸ hnew) hk
  | send epoch id text =>
    simp only [Session.perform]
    split
    · exact .refl h
    · rename_i i socket hs
      split
      · exact .other h hsame rfl (owner_of_socketOf? hs) hk
      · exact .quiet h hsame (by simp [Note.socket?])
  | close epoch =>
    simp only [Session.perform]
    split
    · exact .refl h
    · rename_i i socket hs
      have hown : (s.setSocket i fun k => { k with closed := true }).owners = s.owners :=
        owners_setSocket s i fun _ => rfl
      split
      · exact .other (h.of_eq rfl rfl) (hown ▸ hsame) rfl (hown ▸ owner_of_socketOf? hs) hk
      · exact .quiet (h.of_eq rfl rfl) (hown ▸ hsame) nofun
  | settle t => exact .quiet (h.of_eq rfl (holds_settle ..)) hsame nofun
  | forget caller => exact .quiet (h.of_eq rfl (holds_settle ..)) hsame nofun
  | publish status =>
    exact .quiet (h.of_eq (getElem?_setNode hk _) rfl) hsame nofun
  | notify callback epoch => exact .quiet h hsame (by simp [Note.socket?])
  | log line => exact .quiet h hsame (by simp [Note.socket?])

/-- All that an effect changes of the links of a session is how often one has published. -/
theorem perform_nodes (k : LinkIndex) (e : Effect) (s : Session) :
    (perform k e s).1.nodes = s.nodes ∨
      (perform k e s).1.nodes = (s.setNode k fun n => { n with published := n.published + 1 }).nodes := by
  cases e with
  | connect | settle | forget | notify | log => exact .inl rfl
  | publish status => exact .inr rfl
  | send epoch id text =>
    left
    simp only [Session.perform]
    split
    · rfl
    · split <;> rfl
  | close epoch =>
    left
    simp only [Session.perform]
    split <;> rfl

theorem Spares.behind (h : Spares l n s' c) (ho : s'.owners = s.owners) : Spares l n s c :=
  ⟨h.rest, ho ▸ h.owners, h.notes⟩

/-- What another link does, effect by effect, spares a link at rest. -/
theorem AtRest.each_perform (h : AtRest l n (s.setNode k f)) (hk : k ≠ l) (es : List Effect) :
    Spares l n s (Session.each es (Session.perform k) (s.setNode k f)) :=
  (h.each fun e _ hr => hr.perform hk e).behind rfl

theorem AtRest.setNode (h : AtRest l n s) (hk : k ≠ l) (f : Node → Node) :
    AtRest l n (s.setNode k f) :=
  h.of_eq (getElem?_setNode hk f) rfl

theorem AtRest.deliver (h : AtRest l n s) (hk : k ≠ l) (i : Link.Input) :
    Spares l n s (deliver k i s) := by
  unfold Session.deliver
  split
  · exact .refl h
  · exact (h.setNode hk _).each_perform hk _

/-- A link at rest to which nothing has come stays as it is when links react to what has come. -/
theorem AtRest.drain (h : AtRest l n s) (hempty : n.inbox = []) (k : LinkIndex) :
    Spares l n s (drain k s) := by
  unfold Session.drain
  by_cases hk : k = l
  · subst hk
    have hsame : { n with inbox := [] } = n := by
      rw [← hempty]
    have hnode : (s.setNode k fun n => { n with inbox := [] }).nodes[k]? = s.nodes[k]? := by
      simp [Session.setNode, h.node, hsame]
    simp only [h.node, hempty]
    exact (Spares.refl (h.of_eq hnode rfl)).behind rfl
  · split
    · exact .refl h
    · exact ((h.setNode hk _).each fun i _ hr => hr.deliver hk i).behind rfl

/-- A link that has stopped does not stop again. -/
theorem AtRest.retire (h : AtRest l n s) (hstopped : n.stopped) (k : LinkIndex) :
    Spares l n s (retire k s) := by
  unfold Session.retire
  split
  · exact .refl h
  · rename_i m hm
    split
    · exact .refl h
    · rename_i hgoing
      have hk : k ≠ l := by
        rintro rfl
        obtain rfl := Option.some.inj (h.node.symm.trans hm)
        simp [hstopped] at hgoing
      exact (h.setNode hk _).each_perform hk _

theorem AtRest.ring (h : AtRest l n s) (hstopped : n.stopped) (k : LinkIndex) :
    Spares l n s (ring k s) := by
  unfold Session.ring
  split
  · exact .refl h
  · rename_i m hm
    split
    · exact .refl h
    · rename_i hgoing
      have hk : k ≠ l := by
        rintro rfl
        obtain rfl := Option.some.inj (h.node.symm.trans hm)
        exact hgoing hstopped
      exact (h.setNode hk _).each_perform hk _

theorem AtRest.lt (h : AtRest l n s) : l < s.nodes.length :=
  (List.getElem?_eq_some_iff.mp h.node).1

theorem holds_eq_false : s.holds l = false ↔
    (∀ h ∈ s.handles, h.link ≠ l) ∧
      ∀ c ∈ s.calls, c.link = l → c.continuation.isSome → c.isDone := by
  simp only [holds, Bool.or_eq_false_iff, List.any_eq_false]
  refine and_congr (by simp) (forall_congr' fun c => imp_congr_right fun _ => ?_)
  cases c.isDone <;> simp

/-- Whoever takes hold of another link, and calls that are done, do not hold this one. -/
theorem AtRest.of_unheld (h : AtRest l n s) (hn : s'.nodes[l]? = s.nodes[l]?)
    (hh : ∀ x ∈ s'.handles, x ∈ s.handles ∨ x.link ≠ l)
    (hc : ∀ c ∈ s'.calls, c ∈ s.calls ∨ c.link ≠ l ∨ c.isDone) : AtRest l n s' := by
  obtain ⟨hhandles, hcalls⟩ := holds_eq_false.mp h.unheld
  refine ⟨hn.trans h.node, holds_eq_false.mpr ⟨fun x hx => ?_, fun c hm hl hsome => ?_⟩⟩
  · exact (hh x hx).elim (hhandles x) id
  · rcases hc c hm with hm | hne | hdone
    · exact hcalls c hm hl hsome
    · exact absurd hl hne
    · exact hdone

theorem AtRest.name {handle : Handle} (h : AtRest l n s) (hk : handle.link ≠ l) :
    AtRest l n (s.name handle) := by
  refine h.of_unheld rfl (fun x hx => ?_) fun c hc => .inl hc
  rcases List.mem_append.mp hx with hx | hx
  · exact .inl (List.mem_filter.mp hx).1
  · exact .inr (List.mem_singleton.mp hx ▸ hk)

/-- A new link takes a place of its own. -/
theorem AtRest.openLink (h : AtRest l n s) (name : String) (role : Role) (config : Link.Config) :
    Spares l n s (openLink name role config s) := by
  have hk : s.nodes.length ≠ l := (Nat.ne_of_lt h.lt).symm
  have hnew : AtRest l n { s with nodes := s.nodes ++ [{ link := (Link.start config).1 }] } :=
    h.of_eq (List.getElem?_append_left h.lt) rfl
  have hadded : Spares l n s (s.addLink config) :=
    (hnew.each fun e _ hr => hr.perform hk e).behind rfl
  exact ⟨hadded.rest.name hk, hadded.owners, hadded.notes⟩

theorem Spares.logged (h : Spares l n s c) (lines : List Link.LogLine) :
    Spares l n s (c.1, lines.map .logged ++ c.2) := by
  refine ⟨h.rest, h.owners, fun note hm i hi => ?_⟩
  rcases List.mem_append.mp hm with hm | hm
  · obtain ⟨line, -, rfl⟩ := List.mem_map.mp hm
    cases hi
  · exact h.notes note hm i hi

/-- A call that goes on holds its own link and adds a new one, and this is neither. -/
theorem AtRest.resume (h : AtRest l n s) (caller : Caller) : Spares l n s (resume caller s) := by
  unfold Session.resume
  split
  · rename_i k outcome hfind
    have hdone : AtRest l n { s with calls := s.calls.map fun c =>
        if c.caller = caller then { c with progress := .done (.answer (k.sequel.answer outcome)) }
        else c } := by
      refine h.of_unheld rfl (fun x hx => .inl hx) fun c hc => ?_
      obtain ⟨c', hc', rfl⟩ := List.mem_map.mp hc
      split
      · exact .inr (.inr rfl)
      · exact .inl hc'
    cases outcome with
    | error failure => exact (Spares.refl hdone).behind rfl
    | ok v =>
      cases ho : k.sequel.opens with
      | none => exact ((Spares.refl hdone).logged _).behind rfl
      | some a => exact ((hdone.openLink k.name .member _).logged _).behind rfl
  · exact .refl h

theorem AtRest.resumeAll (h : AtRest l n s) : Spares l n s (resumeAll s) := by
  have hawake : AtRest l n { s with woken := [] } := h.of_eq rfl rfl
  exact (hawake.each fun k _ hr => hr.resume k).behind rfl

/-- A link at rest is spared while its session runs until it is idle. -/
theorem AtRest.settleDown (h : AtRest l n s) (hstopped : n.stopped) (hempty : n.inbox = []) :
    Spares l n s (settleDown s) := by
  have hretire : ∀ {s}, AtRest l n s → Spares l n s (Session.each (List.range s.nodes.length) Session.retire s) :=
    fun hr => hr.each fun k _ hr => hr.retire hstopped k
  have hring : ∀ {s}, AtRest l n s → Spares l n s (Session.each s.due Session.ring s) :=
    fun hr => hr.each fun k _ hr => hr.ring hstopped k
  have hdrain : Spares l n s (Session.each (List.range s.nodes.length) Session.drain s) :=
    h.each fun k _ hr => hr.drain hempty k
  have hfirst := hdrain.andThen
    (f := fun s => Session.each (List.range s.nodes.length) Session.retire s) hretire
  have hrung := hfirst.andThen (f := fun s => Session.each s.due Session.ring s) hring
  have hresumed := hrung.andThen (f := Session.resumeAll) AtRest.resumeAll
  exact hresumed.andThen
    (f := fun s => Session.each (List.range s.nodes.length) Session.retire s) hretire

theorem AtRest.tell (h : AtRest l n s) : Spares l n s (tell s) := by
  refine .quiet (h.of_unheld rfl (fun x hx => .inl hx) fun c hc => ?_) (List.prefix_refl _) ?_
  · exact .inl (List.mem_filter.mp hc).1
  · intro note hm
    rcases List.mem_append.mp hm with hm | hm
    · obtain ⟨c, -, hc⟩ := List.mem_filterMap.mp hm
      split at hc <;> cases hc
      rfl
    · obtain ⟨w, -, hw⟩ := List.mem_filterMap.mp hm
      obtain ⟨m, -, rfl⟩ := Option.map_eq_some_iff.mp hw
      rfl

theorem Spares.of_rest (h : AtRest l n s') (ho : s'.owners = s.owners) : Spares l n s (s', []) :=
  (Spares.refl h).behind ho

/-- No handle is of a link at rest. -/
theorem AtRest.handle_ne (h : AtRest l n s) {name : String} {handle : Handle}
    (hh : s.handle? name = some handle) : handle.link ≠ l :=
  (holds_eq_false.mp h.unheld).1 handle (List.mem_of_find?_eq_some hh)

theorem AtRest.withHandle (h : AtRest l n s) (name : String) {f : Handle → Session}
    (hf : ∀ handle, handle.link ≠ l → Spares l n s (f handle, [])) :
    Spares l n s (s.withHandle name f).2 := by
  unfold Session.withHandle
  split
  · rename_i handle hh
    exact hf handle (h.handle_ne hh)
  · exact .refl h

theorem AtRest.call (h : AtRest l n s) (hk : k ≠ l) (label : String) (r : Message.Request)
    (continuation : Option Continuation) :
    Spares l n s (s.call label k r continuation, []) := by
  refine .of_rest (AtRest.of_unheld (h.setNode hk _) rfl (fun x hx => .inl hx) fun c hc => ?_) rfl
  rcases List.mem_append.mp hc with hc | hc
  · exact .inl hc
  · obtain rfl := List.mem_singleton.mp hc
    exact .inr (.inl hk)

theorem AtRest.callInVain (h : AtRest l n s) (hk : k ≠ l) (label : String)
    (why : Hub.Misaddressed) : Spares l n s (s.callInVain label k why, []) := by
  refine .of_rest (h.of_unheld rfl (fun x hx => .inl hx) fun c hc => ?_) rfl
  rcases List.mem_append.mp hc with hc | hc
  · exact .inl hc
  · obtain rfl := List.mem_singleton.mp hc
    exact .inr (.inl hk)

theorem AtRest.openAt (h : AtRest l n s) (name : String) (role : Role) (e : Hub.Endpoint)
    (address : Except Hub.Misaddressed Address) :
    Spares l n s (s.openAt name role e address).2 := by
  unfold Session.openAt
  split
  · exact .refl h
  · exact h.openLink ..

/-- No step gives work to a link at rest. -/
theorem AtRest.take (h : AtRest l n s) (st : Step) : Spares l n s (s.take st).2 := by
  cases st with
  | connect name url verbose delay =>
    simp only [Session.take]
    split
    · exact .refl h
    · exact h.openLink ..
  | clone name copy => exact h.withHandle name fun _ hk => .of_rest (h.name hk) rfl
  | drop name =>
    refine .of_rest (h.of_unheld rfl (fun x hx => ?_) fun c hc => .inl hc) rfl
    exact .inl (List.mem_filter.mp hx).1
  | send name label r => exact h.withHandle name fun _ hk => h.call hk label r none
  | abandon label =>
    refine .of_rest (h.of_unheld rfl (fun x hx => .inl hx) fun c hc => ?_) rfl
    exact .inl (List.mem_filter.mp hc).1
  | subscribe name tag => exact h.withHandle name fun _ hk => .of_rest (h.setNode hk _) rfl
  | watch name tag =>
    simp only [Session.take]
    split
    · exact .refl h
    · split
      · exact .refl h
      · exact .of_rest (h.of_eq rfl rfl) rfl
  | openHub name e => exact h.openAt ..
  | openInstance name e suffix => exact h.openAt ..
  | askHub name label c opened =>
    refine h.withHandle name fun handle hk => ?_
    split
    · split
      · exact h.call hk ..
      · exact h.callInVain hk ..
    · exact .refl h
  | askInstance name label c => exact h.withHandle name fun _ hk => h.call hk ..
  | transport i event =>
    simp only [Session.take]
    split
    · exact .refl h
    · rename_i socket hs
      split
      · -- A report reaches a link that somebody holds, and nobody holds one at rest.
        rename_i hheld
        have hk : socket.link ≠ l := by
          rintro rfl
          rw [h.unheld] at hheld
          cases hheld
        exact .of_rest (h.setNode hk _) rfl
      · exact .refl h
  | detach i => exact .of_rest (h.of_eq rfl rfl) (owners_setSocket _ _ fun _ => rfl)
  | advance time => exact .of_rest (h.of_eq rfl rfl) rfl
  | connections => exact .refl h
  | wait => exact .refl h

theorem AtRest.step (h : AtRest l n s) (hstopped : n.stopped) (hempty : n.inbox = [])
    (held : Bool) (st : Step) : Spares l n s (s.step held st).2 := by
  cases held with
  | true => exact h.take st
  | false =>
    have hsettled := (h.take st).andThen (f := Session.settleDown) fun hr =>
      hr.settleDown hstopped hempty
    simp only [Session.step, Bool.false_eq_true, ↓reduceIte]
    exact hsettled.andThen (f := Session.tell) AtRest.tell

theorem AtRest.run (h : AtRest l n s) (hstopped : n.stopped) (hempty : n.inbox = [])
    (sts : List (Bool × Step)) : Spares l n s (s.run sts) := by
  induction sts generalizing s with
  | nil => exact .refl h
  | cons st sts ih =>
    exact (h.step hstopped hempty st.1 st.2).andThen (f := fun s => s.run sts) fun hr => ih hr

end Switchboard.Session
