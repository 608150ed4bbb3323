import Switchboard.Proofs.Link.Life

namespace Switchboard.Link

open Message (Id Request)

variable {ts : List Turn} {l l' : Link} {now : Nat} {m : Moment} {fs : List Effect}

def Turn.call? (E : Epoch) (t : Turn) : Option (Request × Caller) :=
  match t.moment with
  | .input (.request r c) =>
    if t.before.epoch = E ∧ t.before.phase ≠ .closed then some (r, c) else none
  | _ => none

/-- The calls put to a link during an epoch while it was connecting or open, in order. -/
def calls (E : Epoch) (ts : List Turn) : List (Request × Caller) := ts.filterMap (Turn.call? E)

def numbered (cs : List (Request × Caller)) : List Numbered := cs.mapIdx fun i c => ⟨i + 1, c.1⟩

def Effect.status? : Effect → Option Status
  | .publish status => some status
  | _ => none

def published (es : List Effect) : List Status := es.filterMap Effect.status?

theorem calls_concat (E : Epoch) (ts : List Turn) (t : Turn) :
    calls E (ts ++ [t]) = calls E ts ++ (t.call? E).toList := by
  unfold calls
  rw [List.filterMap_append]
  cases h : t.call? E <;> simp [h]

/-- A request that a link takes is a call of the current epoch, and of no other. -/
theorem calls_enter (hp : l.phase ≠ .closed) (E : Epoch) (r : Request) (c : Caller) :
    calls E (ts ++ [⟨l, now, .input (.request r c), l'⟩]) =
      calls E ts ++ if l.epoch = E then [(r, c)] else [] := by
  rw [calls_concat]
  by_cases hE : l.epoch = E <;> simp [Turn.call?, hE, hp]

theorem numbered_concat (cs : List (Request × Caller)) (c : Request × Caller) :
    numbered (cs ++ [c]) = numbered cs ++ [⟨cs.length + 1, c.1⟩] :=
  List.mapIdx_concat

theorem ids_numbered (cs : List (Request × Caller)) :
    (numbered cs).map (·.id) = List.range' 1 cs.length := by
  apply List.ext_getElem
  · simp [numbered]
  · intro i _ _
    simp [numbered, Nat.add_comm]

/-- What the turns so far say of a link. -/
structure Books (ts : List Turn) (l : Link) : Prop where
  last : l.pending.last = (calls l.epoch ts).length
  kept : l.phase = .connecting → l.backlog.items = numbered (calls l.epoch ts)
  later : ∀ E, l.epoch < E → calls E ts = []

/-- A turn without a call, which neither gives out ids nor touches what is kept back. -/
theorem Books.idle {t : Turn} (hb : Books ts l) (ht : ∀ E, t.call? E = none)
    (he : l'.epoch = l.epoch) (hl : l'.pending.last = l.pending.last)
    (hk : l'.phase = .connecting → l.phase = .connecting ∧ l'.backlog = l.backlog) :
    Books (ts ++ [t]) l' := by
  have hc : ∀ E, calls E (ts ++ [t]) = calls E ts := by
    intro E
    rw [calls_concat, ht]
    exact List.append_nil _
  constructor
  · rw [hc, he, hl]
    exact hb.last
  · intro hp
    obtain ⟨hq, hbk⟩ := hk hp
    rw [hc, he, hbk]
    exact hb.kept hq
  · intro E hE
    rw [hc]
    exact hb.later E (he ▸ hE)

/-- A turn that enters a call. -/
theorem Books.enter {r : Request} {c : Caller} (hb : Books ts l) (hp : l.phase ≠ .closed)
    (he : l'.epoch = l.epoch) (hl : l'.pending = l.pending.register c)
    (hk : l'.phase = .connecting → l.phase = .connecting ∧
      l'.backlog = l.backlog.push ⟨l.pending.next, r⟩) :
    Books (ts ++ [⟨l, now, .input (.request r c), l'⟩]) l' := by
  have hc : calls l.epoch (ts ++ [⟨l, now, .input (.request r c), l'⟩]) =
      calls l.epoch ts ++ [(r, c)] := by
    rw [calls_enter hp, if_pos rfl]
  constructor
  · rw [he, hc, hl, List.length_append, ← hb.last]
    rfl
  · intro hq
    obtain ⟨hq, hbk⟩ := hk hq
    rw [he, hc, hbk, numbered_concat, ← hb.last, ← hb.kept hq]
    rfl
  · intro E hE
    rw [he] at hE
    rw [calls_enter hp, if_neg (Nat.ne_of_lt hE), hb.later E hE]
    rfl

/-- A new epoch begins without calls and gives out its ids anew. -/
theorem Books.renew (hb : Books ts l) (he : l'.epoch = l.epoch + 1) (hl : l'.pending.last = 0)
    (hk : l'.backlog.items = []) :
    Books (ts ++ [⟨l, now, .clock, l'⟩]) l' := by
  have hc : ∀ E, l.epoch < E → calls E (ts ++ [⟨l, now, .clock, l'⟩]) = [] := by
    intro E hE
    rw [calls_concat, hb.later E hE]
    rfl
  have hlt : l.epoch < l'.epoch := he ▸ Nat.lt_succ_self _
  have hn : calls l'.epoch (ts ++ [⟨l, now, .clock, l'⟩]) = [] := hc _ hlt
  constructor
  · rw [hn, hl]
    rfl
  · intro _
    rw [hn, hk]
    rfl
  · intro E hE
    exact hc E (Nat.lt_trans hlt hE)

/-- Every move keeps the books: only a request enters a call, and only the clock begins a new page.
-/
theorem Move.books (h : Move l now m l' fs) (hs : l.Sound) (hb : Books ts l) :
    Books (ts ++ [⟨l, now, m, l'⟩]) l' := by
  cases h with
  | stale | fault | reopened | reclosed | early | subscribed =>
    exact hb.idle (fun _ => rfl) rfl rfl (fun hp => ⟨hp, rfl⟩)
  | refused h =>
    have hp : l.phase = .closed := hs.closed_of_ended h
    refine hb.idle (fun E => ?_) rfl rfl (fun hp => ⟨hp, rfl⟩)
    simp [Turn.call?, hp]
  | queued h hp =>
    exact hb.enter (hs.open_of_going h) rfl rfl (fun hq => ⟨hq, rfl⟩)
  | written h hp =>
    exact hb.enter (hs.open_of_going h) rfl rfl (fun hq => by simp [hp] at hq)
  | opened => exact hb.idle (fun _ => rfl) rfl rfl nofun
  | answered =>
    exact hb.idle (fun _ => rfl) rfl (settleEntries_last ..) (fun hp => ⟨hp, rfl⟩)
  | closed => exact hb.idle (fun _ => rfl) rfl rfl nofun
  | renewed => exact hb.renew rfl rfl rfl

theorem start_books (config : Config) : Books [] (start config).1 where
  last := rfl
  kept := fun _ => rfl
  later := fun _ _ => rfl

theorem live_books (config : Config) (ms : List (Nat × Moment)) :
    Books (past config ms) (live config ms).1 :=
  live_induction config (motive := fun ts l _ => Books ts l) (start_books config)
    (fun hs h hb => h.books hs hb) ms

@[simp] theorem published_append (es fs : List Effect) :
    published (es ++ fs) = published es ++ published fs :=
  List.filterMap_append ..

theorem published_map {f : α → Effect} (h : ∀ a, (f a).status? = none) (as : List α) :
    published (as.map f) = [] :=
  filterMap_map_none _ _ h _

theorem published_sends (l : Link) (ns : List Numbered) : published (ns.flatMap l.sends) = [] := by
  apply List.filterMap_eq_nil_iff.mpr
  intro e he
  obtain ⟨n, _, he⟩ := List.mem_flatMap.mp he
  obtain ⟨c, _, rfl⟩ := List.mem_map.mp he
  rfl

/-- A move that changes the status publishes it, and publishes nothing else. -/
theorem Move.published (h : Move l now m l' fs) (hs : l.Sound) :
    Link.published fs = if l'.status = l.status then [] else [l'.status] := by
  cases h with
  | stale | fault | reopened | reclosed | early | subscribed | refused | queued =>
    exact (if_pos rfl).symm
  | written =>
    rw [if_pos rfl]
    exact published_map (fun _ => rfl) _
  | opened h =>
    have hne : (⟨l.epoch, .opened⟩ : Status) ≠ l.status := by simp [hs.status, h]
    rw [if_neg hne]
    exact congrArg (List.cons _) (published_sends l l.backlog.items)
  | @answered text =>
    rw [if_pos rfl]
    obtain ⟨ss, hss⟩ := settleEntries_seen l.pending (Message.readFrame text)
    rw [hss]
    exact published_map (fun _ => rfl) ss
  | closed h =>
    have hne : (⟨l.epoch, .closed⟩ : Status) ≠ l.status := by simp [hs.status, Ne.symm h]
    rw [if_neg hne, published_append, published_append, published_map (fun _ => rfl),
      published_map (fun _ => rfl)]
    rfl
  | renewed h hd =>
    have hne : (⟨l.epoch + 1, .connecting⟩ : Status) ≠ l.status := by
      simp [hs.status]
    rw [if_neg hne, published_append, published_append, published_append,
      published_map (fun _ => rfl), published_map (fun _ => rfl)]
    rfl

/-- The status published last is that of the link. The first one is known without being
published. -/
theorem live_published (config : Config) (ms : List (Nat × Moment)) :
    (published (live config ms).2).getLastD ⟨1, .connecting⟩ = (live config ms).1.status := by
  have h := live_induction config (motive := fun _ l es =>
      (published es).getLastD ⟨1, .connecting⟩ = l.status) rfl (fun hs h hp => by
    rw [published_append, h.published hs]
    split
    · rename_i he
      rw [List.append_nil, hp, he]
    · exact List.getLastD_concat) ms
  rw [← h]
  unfold published
  rw [filterMap_seen _ (fun _ => rfl)]

/-- A link that connects keeps back as many requests as it has given out ids, any other link none. -/
theorem live_backlog_size (config : Config) (ms : List (Nat × Moment)) :
    (live config ms).1.backlog.size =
      if (live config ms).1.phase = .connecting then (live config ms).1.pending.last else 0 := by
  have hs := live_sound config ms
  have hb := live_books config ms
  unfold Backlog.size
  split
  · next hp =>
    rw [hb.kept hp, hb.last]
    exact List.length_mapIdx
  · next hp =>
    rw [hs.written hp]
    rfl

/-- The phase of a link decides what it holds. It has an end, a deadline and no connection just when
it is closed; while it is connecting it keeps back each call of the epoch, under the ids one, two
and so on up to the last one given out. -/
theorem phase_decides_fields (config : Config) (ms : List (Nat × Moment)) :
    let l := (live config ms).1
    (l.closedWith.isSome ↔ l.phase = .closed) ∧
    (l.deadline.isSome ↔ l.phase = .closed) ∧
    (l.connection = none ↔ l.phase = .closed) ∧
    (l.phase = .closed → l.pending.waiting = [] ∧ l.backlog.items = []) ∧
    (l.phase = .opened → l.backlog.items = []) ∧
    (l.phase = .connecting →
      l.backlog.items = numbered (calls l.epoch (past config ms)) ∧
      l.backlog.items.map (·.id) = List.range' 1 l.pending.last) ∧
    (∀ w ∈ l.pending.waiting, 1 ≤ w.1 ∧ w.1 ≤ l.pending.last) ∧
    l.status = ⟨l.epoch, l.phase⟩ ∧
    (published (live config ms).2).getLastD ⟨1, .connecting⟩ = ⟨l.epoch, l.phase⟩ := by
  intro l
  have hs : l.Sound := live_sound config ms
  have hb : Books (past config ms) l := live_books config ms
  have hc : l.connection = none ↔ l.phase = .closed := by
    rw [hs.connection]
    split <;> simp_all
  refine ⟨hs.ended, hs.due, hc, ?_, ?_, ?_, hs.pending.given, hs.status, ?_⟩
  · intro hp
    exact ⟨hs.settled hp, hs.written (by simp [hp])⟩
  · intro hp
    exact hs.written (by simp [hp])
  · intro hp
    refine ⟨hb.kept hp, ?_⟩
    rw [hb.kept hp, hb.last]
    exact ids_numbered _
  · rw [live_published, ← hs.status]

end Switchboard.Link
