import Switchboard.Proofs.Link.Books

namespace Switchboard.Link

open Message (Id Request)

variable {ts : List Turn} {l l' : Link} {es fs : List Effect} {now : Nat} {m : Moment}

def Effect.textOn? (E : Epoch) : Effect → Option String
  | .send e _ text => if e = E then some text else none
  | _ => none

/-- The texts handed to the connection of an epoch, in order. -/
def sent (E : Epoch) (es : List Effect) : List String := es.filterMap (Effect.textOn? E)

/-- Whether the connection of an epoch was open after some turn. -/
def wasOpen (E : Epoch) (ts : List Turn) : Bool :=
  ts.any fun t => t.after.epoch == E && t.after.phase == .opened

def texts (cs : List (Request × Caller)) : List String := cs.mapIdx fun i c => c.1.write (i + 1)

@[simp] theorem sent_append (E : Epoch) (es fs : List Effect) :
    sent E (es ++ fs) = sent E es ++ sent E fs :=
  List.filterMap_append ..

theorem sent_map (E : Epoch) {f : α → Effect} (h : ∀ a, (f a).textOn? E = none) (as : List α) :
    sent E (as.map f) = [] :=
  filterMap_map_none _ _ h _

theorem texts_concat (cs : List (Request × Caller)) (c : Request × Caller) :
    texts (cs ++ [c]) = texts cs ++ [c.1.write (cs.length + 1)] :=
  List.mapIdx_concat

theorem texts_eq_map_numbered (cs : List (Request × Caller)) :
    texts cs = (numbered cs).map fun n => n.request.write n.id := by
  apply List.ext_getElem
  · simp [texts, numbered]
  · intro i _ _
    simp [texts, numbered]

theorem wasOpen_concat (E : Epoch) (ts : List Turn) (t : Turn) :
    wasOpen E (ts ++ [t]) = (wasOpen E ts || (t.after.epoch == E && t.after.phase == .opened)) := by
  simp [wasOpen]

/-- An open link writes to the connection of its epoch. -/
theorem sent_sends (E : Epoch) (hc : l.connection = some l.epoch) (ns : List Numbered) :
    sent E (ns.flatMap l.sends) =
      if l.epoch = E then ns.map fun n => n.request.write n.id else [] := by
  unfold sends
  rw [hc]
  induction ns with
  | nil => simp [sent]
  | cons n ns ih =>
    rw [List.flatMap_cons, sent_append, ih]
    by_cases he : l.epoch = E <;> simp [sent, Effect.textOn?, he]

/-- What has been written so far, epoch by epoch. -/
structure Wire (ts : List Turn) (l : Link) (es : List Effect) : Prop where
  sent : ∀ E, sent E es = if wasOpen E ts then texts (calls E ts) else []
  opened : l.phase = .opened → wasOpen l.epoch ts = true
  connecting : l.phase = .connecting → wasOpen l.epoch ts = false
  later : ∀ E, l.epoch < E → wasOpen E ts = false

/-- Unless a link opens in it, a turn leaves open what was open. -/
theorem Wire.wasOpen_same {t : Turn} (hw : Wire ts l es) (he : t.after.epoch = l.epoch)
    (hp : t.after.phase = .opened → l.phase = .opened) (E : Epoch) :
    wasOpen E (ts ++ [t]) = wasOpen E ts := by
  rw [wasOpen_concat, he]
  cases ho : l.epoch == E && t.after.phase == .opened with
  | false => exact Bool.or_false _
  | true =>
    simp only [Bool.and_eq_true, beq_iff_eq] at ho
    obtain ⟨rfl, ho⟩ := ho
    rw [hw.opened (hp ho)]
    rfl

/-- A turn in which no link opens, and which writes the texts of its calls where one is open. -/
theorem Wire.keep {t : Turn} (hw : Wire ts l es) (he : t.after.epoch = l.epoch)
    (hp : t.after.phase = l.phase ∨ t.after.phase = .closed)
    (hf : ∀ E, if wasOpen E ts then
        texts (calls E (ts ++ [t])) = texts (calls E ts) ++ Link.sent E fs
      else Link.sent E fs = []) :
    Wire (ts ++ [t]) t.after (es ++ fs) := by
  have hsame := hw.wasOpen_same he (by rcases hp with hp | hp <;> simp [hp])
  constructor
  · intro E
    have hE := hf E
    rw [hsame, sent_append, hw.sent]
    split at hE <;> simp_all
  · intro ho
    rw [hsame, he]
    exact hw.opened (by rcases hp with hp | hp <;> simp_all)
  · intro ho
    rw [hsame, he]
    exact hw.connecting (by rcases hp with hp | hp <;> simp_all)
  · intro E hE
    rw [hsame]
    exact hw.later E (he ▸ hE)

/-- A turn without a call, a write or an opening. -/
theorem Wire.idle {t : Turn} (hw : Wire ts l es) (ht : ∀ E, t.call? E = none)
    (hf : ∀ E, Link.sent E fs = []) (he : t.after.epoch = l.epoch)
    (hp : t.after.phase = l.phase ∨ t.after.phase = .closed) :
    Wire (ts ++ [t]) t.after (es ++ fs) := by
  refine hw.keep he hp fun E => ?_
  rw [calls_concat, ht, hf]
  simp

/-- A call that waits for the connection to open. -/
theorem Wire.queued {r : Request} {c : Caller} (hw : Wire ts l es) (hp : l.phase = .connecting)
    (he : l'.epoch = l.epoch) (hp' : l'.phase = l.phase) :
    Wire (ts ++ [⟨l, now, .input (.request r c), l'⟩]) l' (es ++ []) := by
  refine hw.keep he (.inl hp') fun E => ?_
  split
  · rename_i ho
    have hne : l.epoch ≠ E := by
      rintro rfl
      simp [hw.connecting hp] at ho
    rw [calls_enter (by simp [hp]), if_neg hne, List.append_nil]
    exact (List.append_nil _).symm
  · rfl

/-- A call that is written at once. -/
theorem Wire.written {r : Request} {c : Caller} (hw : Wire ts l es) (hb : Books ts l)
    (hs : l.Sound) (hp : l.phase = .opened) (he : l'.epoch = l.epoch) (hp' : l'.phase = l.phase) :
    Wire (ts ++ [⟨l, now, .input (.request r c), l'⟩]) l' (es ++ l.sends ⟨l.pending.next, r⟩) := by
  have hn : l.phase ≠ .closed := by simp [hp]
  have hsent : ∀ E, Link.sent E (l.sends ⟨l.pending.next, r⟩) =
      if l.epoch = E then [r.write l.pending.next] else [] := by
    intro E
    have h := sent_sends E (by rw [hs.connection, if_neg hn]) [⟨l.pending.next, r⟩]
    rwa [List.flatMap_singleton] at h
  refine hw.keep he (.inl hp') fun E => ?_
  rw [calls_enter hn, hsent]
  by_cases hE : l.epoch = E
  · subst hE
    rw [if_pos (hw.opened hp), if_pos rfl, if_pos rfl, texts_concat, ← hb.last]
    rfl
  · simp [hE]

/-- The connection opens: what was kept back is written. -/
theorem Wire.flushed (hw : Wire ts l es) (hb : Books ts l) (hs : l.Sound)
    (hp : l.phase = .connecting) (he : l'.epoch = l.epoch) (hp' : l'.phase = .opened) :
    Wire (ts ++ [⟨l, now, .input (.transport l.epoch .opened), l'⟩]) l'
      (es ++ .publish ⟨l.epoch, .opened⟩ :: l.backlog.items.flatMap l.sends) := by
  have hn : l.phase ≠ .closed := by simp [hp]
  have hc : l.connection = some l.epoch := by rw [hs.connection, if_neg hn]
  -- What was kept back are all calls of the epoch so far, in the order they were made.
  have hsent : ∀ E, Link.sent E (.publish ⟨l.epoch, .opened⟩ :: l.backlog.items.flatMap l.sends) =
      if l.epoch = E then texts (calls l.epoch ts) else [] := by
    intro E
    rw [texts_eq_map_numbered, ← hb.kept hp]
    exact sent_sends E hc _
  have hopen : ∀ E, wasOpen E (ts ++ [⟨l, now, .input (.transport l.epoch .opened), l'⟩]) =
      (wasOpen E ts || l.epoch == E) := by
    intro E
    rw [wasOpen_concat, he, hp']
    simp
  constructor
  · intro E
    rw [sent_append, hw.sent, hsent, hopen, calls_concat]
    by_cases hE : l.epoch = E
    · subst hE
      simp [hw.connecting hp, Turn.call?]
    · simp [hE, Turn.call?]
  · intro _
    simp [hopen, he]
  · intro h
    simp [hp'] at h
  · intro E hE
    rw [he] at hE
    simp [hopen, hw.later E hE, Nat.ne_of_lt hE]

/-- A new connection is not open, and nothing has been written to it. -/
theorem Wire.renewed (hw : Wire ts l es) (he : l'.epoch = l.epoch + 1)
    (hp : l'.phase = .connecting) (hf : ∀ E, Link.sent E fs = []) :
    Wire (ts ++ [⟨l, now, .clock, l'⟩]) l' (es ++ fs) := by
  have hopen : ∀ E, wasOpen E (ts ++ [⟨l, now, .clock, l'⟩]) = wasOpen E ts := by
    intro E
    rw [wasOpen_concat, hp]
    simp
  have hlt : l.epoch < l'.epoch := he ▸ Nat.lt_succ_self _
  constructor
  · intro E
    rw [sent_append, hw.sent, hf, hopen, calls_concat]
    simp [Turn.call?]
  · intro ho
    simp [hp] at ho
  · intro _
    rw [hopen]
    exact hw.later _ hlt
  · intro E hE
    rw [hopen]
    exact hw.later E (Nat.lt_trans hlt hE)

/-- Every move keeps what is written in step with the calls. -/
theorem Move.wire (h : Move l now m l' fs) (hs : l.Sound) (hb : Books ts l) (hw : Wire ts l es) :
    Wire (ts ++ [⟨l, now, m, l'⟩]) l' (es ++ fs) := by
  cases h with
  | stale | fault | reopened | reclosed | early | subscribed =>
    exact hw.idle (t := ⟨l, now, _, _⟩) (fun _ => rfl) (fun _ => rfl) rfl (.inl rfl)
  | refused h =>
    have hp : l.phase = .closed := hs.closed_of_ended h
    exact hw.idle (t := ⟨l, now, _, _⟩) (by simp [Turn.call?, hp]) (fun _ => rfl) rfl (.inl rfl)
  | queued h hp =>
    exact hw.queued (Phase.eq_connecting hp (hs.open_of_going h)) rfl rfl
  | written h hp => exact hw.written hb hs hp rfl rfl
  | opened h => exact hw.flushed hb hs h rfl rfl
  | @answered text =>
    obtain ⟨ss, hss⟩ := settleEntries_seen l.pending (Message.readFrame text)
    rw [hss]
    exact hw.idle (t := ⟨l, now, _, _⟩) (fun _ => rfl) (fun E => sent_map E (fun _ => rfl) ss) rfl
      (.inl rfl)
  | closed h =>
    refine hw.idle (t := ⟨l, now, _, _⟩) (fun _ => rfl) (fun E => ?_) rfl (.inr rfl)
    rw [sent_append, sent_append, sent_map E (fun _ => rfl), sent_map E (fun _ => rfl)]
    rfl
  | renewed h hd =>
    refine hw.renewed rfl rfl fun E => ?_
    rw [sent_append, sent_append, sent_append, sent_map E (fun _ => rfl),
      sent_map E (fun _ => rfl)]
    rfl

theorem start_wire (config : Config) : Wire [] (start config).1 [.connect 1 config.url] where
  sent := fun _ => rfl
  opened := nofun
  connecting := fun _ => rfl
  later := fun _ _ => rfl

/-- What is written to the connection of an epoch: nothing until it opens, and from then on the
calls put to the link during the epoch, each once and in order, under the ids one, two and so on. A
link that stops writes nothing. -/
theorem sent_eq_texts_of_calls (config : Config) (ms : List (Nat × Moment)) (E : Epoch) :
    sent E (live config ms).2 =
      (if wasOpen E (past config ms) then
        (calls E (past config ms)).mapIdx fun i c => c.1.write (i + 1)
      else []) ∧
    sent E (live config ms).1.stop = [] := by
  constructor
  · have h := live_induction config
      (motive := fun ts l es => Books ts l ∧ Wire ts l es) ⟨start_books config, start_wire config⟩
      (fun hs h hp => ⟨h.books hs hp.1, h.wire hs hp.1 hp.2⟩) ms
    have hE := h.2.sent E
    rwa [sent, filterMap_seen _ (fun _ => rfl)] at hE
  · unfold stop
    rw [List.cons_append, sent, List.filterMap_cons_none rfl, List.filterMap_append,
      filterMap_map_none _ _ (fun _ => rfl), filterMap_map_none _ _ (fun _ => rfl)]
    rfl

end Switchboard.Link
