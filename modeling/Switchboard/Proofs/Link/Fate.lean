import Switchboard.Proofs.Link.Books

/-!
What becomes of a call. `fate` reads it off the state the call meets and the moments after it: a
closed link refuses the call, and otherwise the first entry that names its id or the end of its
connection decides it. The main statement is that every call is settled once.
-/

namespace Switchboard.Link

open Message (Id Request)

variable {l l' : Link} {now : Nat} {m : Moment} {fs : List Effect} {c : Caller} {id : Id}

def Moment.caller? : Moment → Option Caller
  | .input (.request _ c) => some c
  | _ => none

def callers (ms : List (Nat × Moment)) : List Caller := ms.filterMap (·.2.caller?)

def Moment.entries (E : Epoch) : Moment → List Entry
  | .input (.transport e (.message text)) => if e = E then Message.readFrame text else []
  | _ => []

def Moment.closing? (E : Epoch) : Moment → Option Closing
  | .input (.transport e (.closed c)) => if e = E then some c else none
  | _ => none

/-- The outcome a moment gives to the call under an id of an epoch, if it settles it. -/
def Moment.outcome? (E : Epoch) (id : Id) (m : Moment) : Option Outcome :=
  ((m.entries E).find? (names id)).map entryOutcome <|>
    (m.closing? E).map fun c => .error (.connectionLost c)

def verdict (E : Epoch) (id : Id) (ms : List (Nat × Moment)) : Option Outcome :=
  ms.findSome? (·.2.outcome? E id)

/-- What becomes of a call put to a link before some moments: nothing, if none of them settles
it. -/
def fate (l : Link) (ms : List (Nat × Moment)) : Option Outcome :=
  match l.closedWith with
  | some f => some (.error f)
  | none => verdict l.epoch l.pending.next ms

theorem verdict_cons (E : Epoch) (id : Id) (m : Nat × Moment) (ms : List (Nat × Moment)) :
    verdict E id (m :: ms) = (m.2.outcome? E id).or (verdict E id ms) := by
  unfold verdict
  rw [List.findSome?_cons]
  cases m.2.outcome? E id <;> rfl

theorem told_sends (c : Caller) (l : Link) (n : Numbered) : told c (l.sends n) = [] :=
  told_map c (fun _ => rfl) _

theorem told_flush (c : Caller) (l : Link) (ns : List Numbered) :
    told c (ns.flatMap l.sends) = [] := by
  induction ns with
  | nil => rfl
  | cons n ns ih => rw [List.flatMap_cons, told_append, told_sends, ih, List.append_nil]

/-- A link with a call that waits is not closed. -/
theorem Sound.open_of_awaiting (hs : l.Sound) (hi : l.pending.idsOf c = [id]) :
    l.phase ≠ .closed := by
  intro hp
  have hm : id ∈ l.pending.idsOf c := by simp [hi]
  have hw := Pending.mem_idsOf.mp hm
  rw [hs.settled hp] at hw
  exact List.not_mem_nil hw

/-- A caller that does not wait is told nothing, unless it calls. -/
theorem Move.absent (h : Move l now m l' fs) (hs : l.Sound) (hi : l.pending.idsOf c = [])
    (hc : m.caller? ≠ some c) : told c fs = [] ∧ l'.pending.idsOf c = [] := by
  cases h with
  | stale | fault | reopened | reclosed | early | subscribed => exact ⟨rfl, hi⟩
  | refused h =>
    refine ⟨?_, hi⟩
    rw [told_settle, if_neg (by simpa [Moment.caller?] using hc)]
  | queued =>
    have hi' := l.pending.idsOf_register_other (by simpa [Moment.caller?] using hc)
    exact ⟨rfl, hi'.trans hi⟩
  | written =>
    have hi' := l.pending.idsOf_register_other (by simpa [Moment.caller?] using hc)
    exact ⟨told_sends .., hi'.trans hi⟩
  | opened => exact ⟨told_flush .., hi⟩
  | answered =>
    rw [told_seen]
    exact settleEntries_absent hs.pending hi _
  | closed =>
    refine ⟨?_, rfl⟩
    rw [told_append, told_append, told_map c (fun _ => rfl), settleAll_told, hi]
    rfl
  | renewed =>
    refine ⟨?_, rfl⟩
    rw [told_append, told_append, told_append, told_map c (fun _ => rfl),
      told_map c (fun _ => rfl)]
    rfl

/-- A caller that waits is told the outcome of the moment, and waits on if there is none. -/
theorem Move.awaiting (h : Move l now m l' fs) (hs : l.Sound) (hi : l.pending.idsOf c = [id])
    (hc : m.caller? ≠ some c) :
    l'.epoch = l.epoch ∧ told c fs = (m.outcome? l.epoch id).toList ∧
    l'.pending.idsOf c = if (m.outcome? l.epoch id).isSome then [] else [id] := by
  have hp := hs.open_of_awaiting hi
  cases h with
  | @stale epoch event h =>
    have hn : Moment.outcome? l.epoch id (.input (.transport epoch event)) = none := by
      cases event <;> simp [Moment.outcome?, Moment.entries, Moment.closing?, h]
    rw [hn]
    exact ⟨rfl, rfl, hi⟩
  | fault | reopened | early | subscribed => exact ⟨rfl, rfl, hi⟩
  | reclosed h => exact absurd h hp
  | refused h => exact absurd (hs.closed_of_ended h) hp
  | queued =>
    have hi' := l.pending.idsOf_register_other (by simpa [Moment.caller?] using hc)
    exact ⟨rfl, rfl, hi'.trans hi⟩
  | written =>
    have hi' := l.pending.idsOf_register_other (by simpa [Moment.caller?] using hc)
    exact ⟨rfl, told_sends .., hi'.trans hi⟩
  | opened => exact ⟨rfl, told_flush .., hi⟩
  | @answered text =>
    refine ⟨rfl, ?_⟩
    rw [told_seen]
    have ha := settleEntries_awaiting hs.pending hi (Message.readFrame text)
    simpa [Moment.outcome?, Moment.entries, Moment.closing?] using ha
  | closed =>
    refine ⟨rfl, ?_, ?_⟩
    · rw [told_append, told_append, told_map c (fun _ => rfl), settleAll_told, hi]
      simp [Moment.outcome?, Moment.entries, Moment.closing?, told, Effect.outcomeFor]
    · simp [Moment.outcome?, Moment.entries, Moment.closing?, Pending.idsOf, Pending.settleAll]
  | renewed h => exact absurd (hs.closed_of_due h) hp

theorem callers_cons (m : Nat × Moment) (ms : List (Nat × Moment)) :
    callers (m :: ms) = m.2.caller?.toList ++ callers ms := by
  unfold callers
  cases h : m.2.caller? <;> simp [h]

theorem callers_append (ms ms' : List (Nat × Moment)) :
    callers (ms ++ ms') = callers ms ++ callers ms' :=
  List.filterMap_append ..

/-- A caller that neither waits nor calls is told nothing, however long a link runs. -/
theorem run_absent {ms : List (Nat × Moment)} (hs : l.Sound) (hi : l.pending.idsOf c = [])
    (hc : c ∉ callers ms) : told c (l.run ms).2 = [] ∧ (l.run ms).1.pending.idsOf c = [] := by
  induction ms generalizing l with
  | nil => exact ⟨rfl, hi⟩
  | cons m ms ih =>
    rw [callers_cons, List.mem_append, not_or] at hc
    have hm := l.react_move m.1 m.2
    obtain ⟨ht, hi'⟩ := hm.absent hs hi (by simpa using hc.1)
    obtain ⟨ht', hi''⟩ := ih (hm.sound hs) hi' hc.2
    rw [told_seen] at ht
    exact ⟨by rw [run, told_append, ht, ht', List.append_nil], hi''⟩

/-- A call that waits comes to the verdict of the moments to come. -/
theorem run_awaiting {ms : List (Nat × Moment)} (hs : l.Sound) (hi : l.pending.idsOf c = [id])
    (hc : c ∉ callers ms) :
    told c (l.run ms).2 = (verdict l.epoch id ms).toList ∧
    (l.run ms).1.pending.idsOf c = if (verdict l.epoch id ms).isSome then [] else [id] := by
  induction ms generalizing l with
  | nil => exact ⟨rfl, hi⟩
  | cons m ms ih =>
    rw [callers_cons, List.mem_append, not_or] at hc
    have hm := l.react_move m.1 m.2
    obtain ⟨he, ht, hi'⟩ := hm.awaiting hs hi (by simpa using hc.1)
    rw [told_seen] at ht
    rw [run, told_append, ht, verdict_cons]
    cases ho : m.2.outcome? l.epoch id with
    | some o =>
      rw [ho] at hi'
      obtain ⟨ht', hi''⟩ := run_absent (hm.sound hs) hi' hc.2
      simp [ht', hi'']
    | none =>
      rw [ho] at hi'
      -- The epoch is still that of the call: the next one begins only once nobody waits.
      obtain ⟨ht', hi''⟩ := ih (hm.sound hs) hi' hc.2
      rw [he] at ht' hi''
      exact ⟨ht', hi''⟩

/-- A call is refused at once, or waits under the next id. -/
theorem Move.call {r : Request} (h : Move l now (.input (.request r c)) l' fs)
    (hi : l.pending.idsOf c = []) :
    (∃ f, l.closedWith = some f ∧ told c fs = [.error f] ∧ l'.pending.idsOf c = []) ∨
    (l.closedWith = none ∧ l'.epoch = l.epoch ∧ told c fs = [] ∧
      l'.pending.idsOf c = [l.pending.next]) := by
  cases h with
  | refused h => exact .inl ⟨_, h, by simp [told_settle], hi⟩
  | queued h => exact .inr ⟨h, rfl, rfl, by simp [Pending.idsOf_register, hi]⟩
  | written h => exact .inr ⟨h, rfl, told_sends .., by simp [Pending.idsOf_register, hi]⟩

/-- A call comes to its fate. -/
theorem run_call {ms : List (Nat × Moment)} (now : Nat) (r : Request) (hs : l.Sound)
    (hi : l.pending.idsOf c = []) (hc : c ∉ callers ms) :
    told c (l.run ((now, .input (.request r c)) :: ms)).2 = (fate l ms).toList ∧
    (l.run ((now, .input (.request r c)) :: ms)).1.pending.idsOf c =
      if (fate l ms).isSome then [] else [l.pending.next] := by
  have hm := l.react_move now (.input (.request r c))
  rw [run, told_append, ← told_seen c (l.react now (.input (.request r c))).2]
  rcases hm.call hi with ⟨f, hf, ht, hi'⟩ | ⟨hf, he, ht, hi'⟩
  · have hfate : fate l ms = some (.error f) := by simp [fate, hf]
    obtain ⟨ht', hi''⟩ := run_absent (hm.sound hs) hi' hc
    rw [hfate, ht, ht']
    exact ⟨rfl, hi''⟩
  · have hfate : fate l ms = verdict l.epoch l.pending.next ms := by simp [fate, hf]
    obtain ⟨ht', hi''⟩ := run_awaiting (hm.sound hs) hi' hc
    rw [hfate, ht, ht', he]
    exact ⟨rfl, he ▸ hi''⟩

def fateOf (c : Caller) (l : Link) : List (Nat × Moment) → Option Outcome
  | [] => none
  | (now, m) :: ms => if m.caller? = some c then fate l ms else fateOf c (l.react now m).1 ms

theorem Moment.eq_request (h : m.caller? = some c) : ∃ r, m = .input (.request r c) := by
  unfold caller? at h
  split at h
  · cases h
    exact ⟨_, rfl⟩
  · cases h

/-- A caller with at most one call is told what becomes of it, and waits until then. -/
theorem run_fateOf {ms : List (Nat × Moment)} (hs : l.Sound) (hi : l.pending.idsOf c = [])
    (hc : (callers ms).count c ≤ 1) :
    told c (l.run ms).2 = (fateOf c l ms).toList ∧
    (fateOf c l ms = none → c ∈ callers ms → ∃ id, (l.run ms).1.pending.idsOf c = [id]) := by
  induction ms generalizing l with
  | nil => exact ⟨rfl, fun _ hm => absurd hm List.not_mem_nil⟩
  | cons m ms ih =>
    obtain ⟨now, m⟩ := m
    rw [callers_cons, List.count_append] at hc
    by_cases hm : m.caller? = some c
    · obtain ⟨r, rfl⟩ := Moment.eq_request hm
      have hnone : c ∉ callers ms := by
        have hfirst : (now, Moment.input (.request r c)).2.caller?.toList.count c = 1 :=
          List.count_singleton_self
        exact List.count_eq_zero.mp (by omega)
      obtain ⟨htold, hids⟩ := run_call now r hs hi hnone
      rw [fateOf, if_pos hm]
      exact ⟨htold, fun hf _ => ⟨l.pending.next, by rw [hids, hf]; rfl⟩⟩
    · have hmove := l.react_move now m
      obtain ⟨htold, hids⟩ := hmove.absent hs hi hm
      obtain ⟨hrest, hwaits⟩ := ih (hmove.sound hs) hids (by omega)
      rw [told_seen] at htold
      rw [fateOf, if_neg hm, run, told_append, htold]
      refine ⟨hrest, fun hf hcalls => hwaits hf ?_⟩
      rw [callers_cons, List.mem_append] at hcalls
      exact hcalls.resolve_left fun h => hm (Option.mem_toList.mp h)

theorem mem_callers {ms : List (Nat × Moment)} (h : c ∈ callers ms) :
    ∃ pre now r post, ms = pre ++ (now, .input (.request r c)) :: post := by
  obtain ⟨⟨now, m⟩, hm, hc⟩ := List.mem_filterMap.mp h
  obtain ⟨r, rfl⟩ := Moment.eq_request hc
  obtain ⟨pre, post, rfl⟩ := List.append_of_mem hm
  exact ⟨pre, now, r, post, rfl⟩

theorem callers_split {pre post : List (Nat × Moment)} {r : Request}
    (h : (callers (pre ++ (now, .input (.request r c)) :: post)).Nodup) :
    c ∉ callers pre ∧ c ∉ callers post := by
  rw [callers_append, callers_cons, List.nodup_append] at h
  obtain ⟨-, hpost, hne⟩ := h
  constructor
  · intro hm
    exact hne c hm c (by simp [Moment.caller?]) rfl
  · exact (List.nodup_cons.mp hpost).1

/-- A call comes to its fate, and waits under its id until then. -/
theorem live_call (config : Config) {pre post : List (Nat × Moment)} (now : Nat) (r : Request)
    (hpre : c ∉ callers pre) (hpost : c ∉ callers post) :
    let l := (live config pre).1
    let after := live config (pre ++ (now, .input (.request r c)) :: post)
    told c after.2 = (fate l post).toList ∧
    after.1.pending.idsOf c = if (fate l post).isSome then [] else [l.pending.next] := by
  intro l after
  obtain ⟨ht, hi⟩ := run_absent (start_sound config) (c := c) rfl hpre
  obtain ⟨ht', hi'⟩ := run_call now r (live_sound config pre) hi hpost
  have ha : after = live config (pre ++ (now, .input (.request r c)) :: post) := rfl
  rw [live_append] at ha
  have hpast : told c (live config pre).2 = [] := by
    rw [live, told_append, ht]
    rfl
  rw [ha, told_append, hpast]
  exact ⟨ht', hi'⟩

/-- A link that stops tells every caller that still waits, and nobody else. -/
theorem stop_told (l : Link) (c : Caller) :
    told c l.stop = (l.pending.idsOf c).map fun _ => .error .stopped := by
  unfold stop
  rw [List.cons_append, ← List.singleton_append, told_append, told_append, settleAll_told,
    told_map c (fun _ => rfl)]
  rfl

/-- Moments with three calls and two connections. The first call is lost, the second refused, and
the third gets the id of the first, which a late reply names. -/
def interrupted : List (Nat × Moment) := [
  (0, .input (.transport 1 .opened)),
  (1, .input (.request ⟨"list", "", ""⟩ 7)),
  (2, .input (.transport 1 (.closed (.abort "gone")))),
  (3, .input (.request ⟨"list", "", ""⟩ 8)),
  (1002, .clock),
  (1003, .input (.request ⟨"list", "", ""⟩ 9)),
  (1004, .input (.transport 1 (.message "\x7b\"request_id\":1\x7d")))]

end Switchboard.Link
