import Switchboard.Proofs.Link.Connected
import Switchboard.Proofs.Link.Origin

namespace Switchboard.Link

variable {l l' : Link} {now t due : Nat} {m : Moment} {ms : List (Nat × Moment)}
  {fs : List Effect} {E : Epoch} {f : Failure} {c : Closing}

/-- Moments under a clock that does not go back, nor past the deadline of a link before the link
has turned to it. -/
def Timely (l : Link) (now : Nat) : List (Nat × Moment) → Prop
  | [] => True
  | (t, m) :: rest =>
    now ≤ t ∧ (∀ d ∈ l.deadline, t ≤ d) ∧ Timely (l.react t m).1 t rest

instance Timely.decidable : (l : Link) → (now : Nat) → (ms : List (Nat × Moment)) →
    Decidable (Timely l now ms)
  | _, _, [] => .isTrue trivial
  | l, now, (t, m) :: rest =>
    have := Timely.decidable (l.react t m).1 t rest
    inferInstanceAs (Decidable (now ≤ t ∧ (∀ d ∈ l.deadline, t ≤ d) ∧ _))

def made (ts : List Turn) : List (Nat × Epoch × String) :=
  ts.flatMap fun turn =>
    (connects (turn.before.react turn.now turn.moment).2).map (turn.now, ·)

/-- A link whose epoch has ended with a failure and that connects again at a time. -/
structure Waiting (l : Link) (E : Epoch) (f : Failure) (due : Nat) : Prop where
  epoch : l.epoch = E
  phase : l.phase = .closed
  closedWith : l.closedWith = some f
  deadline : l.deadline = some due

def ready (l : Link) (now : Nat) : Nat := l.deadline.getD (now + l.config.reconnectDelay)

theorem made_append (ts ts' : List Turn) : made (ts ++ ts') = made ts ++ made ts' :=
  List.flatMap_append ..

theorem made_turns_cons (l : Link) (t : Nat) (m : Moment) (ms : List (Nat × Moment)) :
    made (l.turns ((t, m) :: ms)) =
      (connects (l.react t m).2).map (t, ·) ++ made ((l.react t m).1.turns ms) :=
  rfl

/-- The first end of a connection leaves its link waiting for the delay. -/
theorem Move.closes (h : Move l t (.input (.transport l.epoch (.closed c))) l' fs) (hs : l.Sound)
    (hg : l.phase ≠ .closed) :
    Waiting l' l.epoch (.connectionLost c) (t + l.config.reconnectDelay) := by
  have hnone : l.deadline = none := Option.not_isSome_iff_eq_none.mp fun hd => hg (hs.due.mp hd)
  cases h with
  | stale h => exact absurd rfl h
  | reclosed h => exact absurd h hg
  | closed => exact ⟨rfl, rfl, rfl, by rw [hnone]; rfl⟩

/-- Nothing but the clock moves a link that waits, and the clock only once it is due. -/
theorem Move.waiting (h : Move l t m l' fs) (hw : Waiting l E f due)
    (hm : m = .clock → t < due) : Waiting l' E f due := by
  cases h with
  | stale | fault | reopened | reclosed | early | refused => exact hw
  | subscribed | answered => exact { hw with }
  | queued h | written h => exact absurd (hw.closedWith.symm.trans h) nofun
  | opened h => exact absurd (hw.phase.symm.trans h) nofun
  | closed h => exact absurd hw.phase h
  | renewed h hd =>
    have hdue := Option.some.inj (hw.deadline.symm.trans h)
    have hlt := hm rfl
    omega

/-- Once it is due, the clock takes a waiting link to its next epoch. -/
theorem Move.renews (h : Move l t .clock l' fs) (hw : Waiting l E f due) (hd : due ≤ t) :
    l'.epoch = E + 1 ∧ l'.deadline = none := by
  cases h with
  | early h =>
    have hlt := h due hw.deadline
    omega
  | renewed => exact ⟨congrArg (· + 1) hw.epoch, rfl⟩

/-- The connections a reaction makes can be told from the epochs before and after it. -/
theorem react_connects (l : Link) (t : Nat) (m : Moment) :
    connects (l.react t m).2 =
      (List.range' (l.epoch + 1) ((l.react t m).1.epoch - l.epoch)).map (·, l.config.url) := by
  rw [← connects_seen]
  exact (l.react_move t m).passage.connects

theorem Waiting.react (hw : Waiting l E f due) (hm : m = .clock → t < due) :
    Waiting (l.react t m).1 E f due ∧ connects (l.react t m).2 = [] := by
  have hw' := (l.react_move t m).waiting hw hm
  refine ⟨hw', ?_⟩
  rw [react_connects, hw'.epoch, hw.epoch, Nat.sub_self]
  rfl

theorem Waiting.renew (hw : Waiting l E f due) (hd : due ≤ t) :
    connects (l.react t .clock).2 = [(E + 1, l.config.url)] ∧
    (l.react t .clock).1.deadline = none := by
  obtain ⟨hE, hnone⟩ := (l.react_move t .clock).renews hw hd
  refine ⟨?_, hnone⟩
  rw [react_connects, hE, hw.epoch, Nat.add_sub_cancel_left]
  rfl

/-- A waiting link waits on, through any moments, until the clock has come to its time. -/
theorem Waiting.run (hw : Waiting l E f due) (hms : ∀ m ∈ ms, m.2 = .clock → m.1 < due) :
    Waiting (l.run ms).1 E f due ∧ made (l.turns ms) = [] := by
  induction ms generalizing l with
  | nil => exact ⟨hw, rfl⟩
  | cons m ms ih =>
    obtain ⟨hw', hnone⟩ := hw.react (hms m (.head _))
    obtain ⟨hrun, hmade⟩ := ih hw' fun m hm => hms m (.tail _ hm)
    refine ⟨hrun, ?_⟩
    rw [made_turns_cons, hnone, hmade]
    rfl

theorem ready_le_of_same (hnow : now ≤ t) (hd : l'.deadline = l.deadline)
    (hc : l'.config = l.config) : l.ready now ≤ l'.ready t := by
  unfold ready
  rw [hd, hc]
  cases l.deadline with
  | none => exact Nat.add_le_add_right hnow _
  | some d => exact Nat.le_refl d

/-- A link may connect no earlier after a move than before it. -/
theorem Move.ready_le (h : Move l t m l' fs) (hnow : now ≤ t) : l.ready now ≤ l'.ready t := by
  cases h with
  | stale | fault | reopened | reclosed | early | subscribed | refused | queued | written | opened
  | answered => exact ready_le_of_same hnow rfl rfl
  | closed =>
    unfold ready
    cases l.deadline with
    | none => exact Nat.add_le_add_right hnow _
    | some d => exact Nat.le_refl d
  | @renewed d h hd =>
    rw [ready, h]
    exact Nat.le_trans hd (Nat.le_add_right ..)

/-- A link connects only when that is due, and to its next epoch. -/
theorem Move.connects (h : Move l t m l' fs) :
    Link.connects fs = [] ∨
    Link.connects fs = [(l.epoch + 1, l.config.url)] ∧ ∃ d, l.deadline = some d ∧ d ≤ t := by
  rw [h.passage.connects]
  cases h with
  | renewed hd hle =>
    rw [Nat.add_sub_cancel_left]
    exact .inr ⟨rfl, _, hd, hle⟩
  | _ =>
    rw [Nat.sub_self]
    exact .inl rfl

theorem react_due (l : Link) (t : Nat) (m : Moment) :
    connects (l.react t m).2 = [] ∨
    connects (l.react t m).2 = [(l.epoch + 1, l.config.url)] ∧
      ∃ d, l.deadline = some d ∧ d ≤ t := by
  rw [← connects_seen]
  exact (l.react_move t m).connects

/-- Under a clock that passes no deadline, no connection is made before its time. -/
theorem Timely.ready_le (h : Timely l now ms) : ∀ x ∈ made (l.turns ms), l.ready now ≤ x.1 := by
  induction ms generalizing l now with
  | nil => nofun
  | cons m ms ih =>
    obtain ⟨t, m⟩ := m
    obtain ⟨hnow, -, hrest⟩ := h
    intro x hx
    rw [made_turns_cons, List.mem_append] at hx
    rcases hx with hx | hx
    · rcases l.react_due t m with hnone | ⟨-, d, hd, hle⟩
      · rw [hnone] at hx
        exact absurd hx List.not_mem_nil
      · obtain ⟨connection, -, rfl⟩ := List.mem_map.mp hx
        rw [ready, hd]
        exact hle
    · exact Nat.le_trans ((l.react_move t m).ready_le hnow) (ih hrest x hx)

theorem Timely.append {ms' : List (Nat × Moment)} (h : Timely l now (ms ++ ms')) :
    Timely l now ms ∧ ∃ t, Timely (l.run ms).1 t ms' := by
  induction ms generalizing l now with
  | nil => exact ⟨trivial, now, h⟩
  | cons m ms ih =>
    obtain ⟨hnow, hd, hrest⟩ := h
    obtain ⟨hms, t, hms'⟩ := ih hrest
    exact ⟨⟨hnow, hd, hms⟩, t, hms'⟩

/-- As long as a link that waits has not met the clock when it is due, that time has not passed. -/
theorem Waiting.early (hw : Waiting l E f due) (h : Timely l now ms) (hn : (due, .clock) ∉ ms) :
    ∀ m ∈ ms, m.1 ≤ due ∧ (m.2 = .clock → m.1 < due) := by
  induction ms generalizing l now with
  | nil => nofun
  | cons m ms ih =>
    obtain ⟨t, m⟩ := m
    obtain ⟨-, hd, hrest⟩ := h
    rw [List.mem_cons, not_or] at hn
    have hle : t ≤ due := hd due hw.deadline
    have hlt : m = .clock → t < due := by
      rintro rfl
      exact Nat.lt_of_le_of_ne hle fun he => hn.1 (he ▸ rfl)
    intro m' hm'
    rcases List.mem_cons.mp hm' with rfl | hm'
    · exact ⟨hle, hlt⟩
    · exact ih (hw.react hlt).1 hrest hn.2 m' hm'

/-- Once it is due, a link that has waited connects, and not again before another delay. -/
theorem Waiting.timely (hw : Waiting l E f due) (h : Timely l now ms) (hm : (due, .clock) ∈ ms) :
    ∃ later, made (l.turns ms) = (due, E + 1, l.config.url) :: later ∧
      ∀ x ∈ later, due + l.config.reconnectDelay ≤ x.1 := by
  obtain ⟨pre, post, rfl, hpre⟩ := List.eq_append_cons_of_mem hm
  obtain ⟨hearly, t, -, -, hpost⟩ := h.append
  obtain ⟨hwait, hnone⟩ := hw.run fun m hm => (hw.early hearly hpre m hm).2
  obtain ⟨hconnects, hoff⟩ := hwait.renew (Nat.le_refl due)
  have hconfig : (l.run pre).1.config = l.config := run_config l pre
  refine ⟨made (((l.run pre).1.react due .clock).1.turns post), ?_, fun x hx => ?_⟩
  · rw [turns_append, made_append, hnone, made_turns_cons, hconnects, hconfig]
    rfl
  · have hready := hpost.ready_le x hx
    rwa [ready, hoff, ((l.run pre).1.react_move due .clock).config, hconfig] at hready

/-- The first end of a connection makes the next one due after the delay. -/
theorem Ends.closes {ts : List Turn} (he : Ends ts l) (hs : l.Sound) (hn : closings l.epoch ts = [])
    (t : Nat) (c : Closing) :
    Waiting (l.react t (.input (.transport l.epoch (.closed c)))).1 l.epoch (.connectionLost c)
      (t + l.config.reconnectDelay) := by
  have hgoing : l.closedWith = none := by
    rw [he.first, hn]
    rfl
  exact (l.react_move t _).closes hs (hs.open_of_going hgoing)

/-- A link that is due has met an end of its epoch. -/
theorem Ends.before_due {ts : List Turn} (he : Ends ts l) (hs : l.Sound)
    (hd : l.deadline = some due) : closings l.epoch ts ≠ [] := by
  intro hn
  have hended := hs.ended.mpr (hs.closed_of_due hd)
  rw [he.first, hn] at hended
  cases hended

/-- The first end of a connection, at the time `t`, makes the next connection due at `t` and the
delay. Whatever else comes before the clock reaches that time leaves the link closed with this end
and as due as before; the clock then has it make one connection. Under a clock that passes no
deadline this one is made at that very time, and no other before another delay. A link that is not
closed has no deadline, and none comes to an epoch but after an end of the one before. -/
theorem reconnects_once_when_due (config : Config) (ms : List (Nat × Moment)) (t : Nat)
    (c : Closing) (h : closings (live config ms).1.epoch (past config ms) = []) :
    let l := (live config ms).1
    let ended := (l.react t (.input (.transport l.epoch (.closed c)))).1
    let due := t + config.reconnectDelay
    (∀ during, (∀ m ∈ during, m.2 = .clock → m.1 < due) →
      Waiting (ended.run during).1 l.epoch (.connectionLost c) due ∧
      made (ended.turns during) = [] ∧
      ∀ now, due ≤ now →
        made (ended.turns (during ++ [(now, .clock)])) = [(now, l.epoch + 1, config.url)]) ∧
    (∀ after, Timely ended t after →
      ((due, .clock) ∉ after → (∀ m ∈ after, m.1 ≤ due) ∧ made (ended.turns after) = []) ∧
      ((due, .clock) ∈ after → ∃ later,
        made (ended.turns after) = (due, l.epoch + 1, config.url) :: later ∧
        ∀ x ∈ later, due + config.reconnectDelay ≤ x.1)) ∧
    (∀ ms', (live config ms').1.deadline.isSome ↔ (live config ms').1.phase = .closed) ∧
    ∀ ms' now m, let l := (live config ms').1
      connects (l.react now m).2 = [] ∨
      connects (l.react now m).2 = [(l.epoch + 1, config.url)] ∧
        closings l.epoch (past config ms') ≠ [] := by
  intro l ended due
  have hconfig : ended.config = config :=
    (l.react_move t _).config.trans (live_config config ms)
  have hw : Waiting ended l.epoch (.connectionLost c) due := by
    have hclosed := (live_ends config ms).closes (live_sound config ms) h t c
    rwa [live_config] at hclosed
  refine ⟨fun during hduring => ?_, fun after hafter => ⟨fun hn => ?_, fun hm => ?_⟩,
    fun ms' => (live_sound config ms').due, fun ms' now m => ?_⟩
  · obtain ⟨hwait, hnone⟩ := hw.run hduring
    refine ⟨hwait, hnone, fun now hnow => ?_⟩
    obtain ⟨hnext, -⟩ := hwait.renew hnow
    rw [turns_append, made_append, hnone, made_turns_cons, hnext, run_config, hconfig]
    rfl
  · -- A clock that passes no deadline and has not met it has stayed before it.
    have hearly := hw.early hafter hn
    exact ⟨fun m hm => (hearly m hm).1, (hw.run fun m hm => (hearly m hm).2).2⟩
  · have htimely := hw.timely hafter hm
    rwa [hconfig] at htimely
  · rcases (live config ms').1.react_due now m with hnone | ⟨hnext, d, hd, -⟩
    · exact .inl hnone
    · rw [live_config] at hnext
      exact .inr ⟨hnext, (live_ends config ms').before_due (live_sound config ms') hd⟩

/-- Moments after the end of a first connection: other reports of it, a call, and the clock before
the delay has passed, at that time and after it. -/
def aftermath : List (Nat × Moment) := [
  (3, .input (.transport 1 (.closed (.leave 1000 "bye")))),
  (4, .input (.transport 1 .opened)),
  (5, .input (.request ⟨"list", "", ""⟩ 7)),
  (900, .clock),
  (1002, .clock),
  (1002, .clock),
  (1300, .input (.transport 1 (.closed (.abort "late"))))]

/-- A link that meets other reports, a call and an early clock after its end connects once, on time.
-/
theorem ended_link_connects_again :
    let config : Config := ⟨"ws://hub", 1000, false⟩
    let ms := [(0, .input (.transport 1 .opened))]
    let ended := ((live config ms).1.react 2 (.input (.transport 1 (.closed (.abort "gone"))))).1
    closings (live config ms).1.epoch (past config ms) = [] ∧ Timely ended 2 aftermath ∧
    ∃ later, made (ended.turns aftermath) = (1002, 2, "ws://hub") :: later ∧
      ∀ x ∈ later, 2002 ≤ x.1 := by
  intro config ms ended
  have hn : closings (live config ms).1.epoch (past config ms) = [] := rfl
  have hafter : Timely ended 2 aftermath := by decide
  have hagain := (reconnects_once_when_due config ms 2 (.abort "gone") hn).2.1 aftermath hafter
  exact ⟨hn, hafter, hagain.2 (by simp [aftermath, config])⟩

end Switchboard.Link
