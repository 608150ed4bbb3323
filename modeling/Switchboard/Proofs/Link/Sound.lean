import Switchboard.Proofs.Link.Move

namespace Switchboard.Link

/-- The invariant of a link between turns. -/
structure Sound (l : Link) : Prop where
  pending : l.pending.Sound
  ended : l.closedWith.isSome ↔ l.phase = .closed
  due : l.deadline.isSome ↔ l.phase = .closed
  connection : l.connection = if l.phase = .closed then none else some l.epoch
  settled : l.phase = .closed → l.pending.waiting = []
  written : l.phase ≠ .connecting → l.backlog.items = []
  status : l.status = ⟨l.epoch, l.phase⟩

variable {l l' : Link} {now : Nat} {m : Moment} {fs : List Effect}

theorem settleEntry_last (p : Pending) (e : Entry) : (settleEntry p e).1.last = p.last := by
  rw [(settleEntry_eq p e).1]
  cases entryId? e with
  | none => rfl
  | some id =>
    simp only [Option.map_some, Option.getD_some, Pending.settle]
    split <;> rfl

theorem settleEntries_last (p : Pending) (es : List Entry) :
    (settleEntries p es).1.last = p.last := by
  induction es generalizing p with
  | nil => rfl
  | cons e es ih => exact (ih _).trans (settleEntry_last p e)

theorem settleEntry_sublist (p : Pending) (e : Entry) :
    (settleEntry p e).1.waiting.Sublist p.waiting := by
  rw [(settleEntry_eq p e).1]
  cases entryId? e with
  | none => exact .refl _
  | some id =>
    simp only [Option.map_some, Option.getD_some, Pending.settle]
    split
    · exact List.filter_sublist
    · exact .refl _

theorem settleEntries_sublist (p : Pending) (es : List Entry) :
    (settleEntries p es).1.waiting.Sublist p.waiting := by
  induction es generalizing p with
  | nil => exact .refl _
  | cons e es ih => exact (ih _).trans (settleEntry_sublist p e)

theorem Phase.eq_connecting {p : Phase} (ho : p ≠ .opened) (hc : p ≠ .closed) :
    p = .connecting := by
  cases p with
  | connecting => rfl
  | opened => exact absurd rfl ho
  | closed => exact absurd rfl hc

/-- A link whose connection has not ended is not closed. -/
theorem Sound.open_of_going (hs : l.Sound) (h : l.closedWith = none) : l.phase ≠ .closed := by
  intro hp
  have := hs.ended.mpr hp
  simp [h] at this

theorem Sound.going_of_open (hs : l.Sound) (h : l.phase ≠ .closed) : l.closedWith = none :=
  Option.not_isSome_iff_eq_none.mp fun hc => h (hs.ended.mp hc)

theorem Sound.closed_of_ended (hs : l.Sound) {f : Failure} (h : l.closedWith = some f) :
    l.phase = .closed :=
  hs.ended.mp (by simp [h])

theorem Sound.closed_of_due (hs : l.Sound) {d : Nat} (h : l.deadline = some d) :
    l.phase = .closed :=
  hs.due.mp (by simp [h])

theorem start_sound (config : Config) : (start config).1.Sound where
  pending := .empty
  ended := by simp [start, connect]
  due := by simp [start, connect]
  connection := rfl
  settled := nofun
  written := by simp [start, connect]
  status := rfl

/-- Every move leaves a sound link sound. -/
theorem Move.sound (h : Move l now m l' fs) (hs : l.Sound) : l'.Sound := by
  cases h with
  | stale | fault | reopened | reclosed | early | refused => exact hs
  | subscribed => exact { hs with }
  | queued h hp =>
    -- Neither closed nor open, the link is connecting: nothing has to be written yet.
    have hc := hs.open_of_going h
    have hq : l.phase = .connecting := Phase.eq_connecting hp hc
    exact { hs with
      pending := hs.pending.register _
      settled := fun he => absurd he hc
      written := fun he => absurd hq he }
  | written h hp =>
    exact { hs with
      pending := hs.pending.register _
      settled := fun he => absurd he (hs.open_of_going h) }
  | opened h =>
    refine { hs with
      ended := ?_
      due := ?_
      connection := ?_
      settled := nofun
      written := fun _ => rfl
      status := rfl }
    · simpa [h] using hs.ended
    · simpa [h] using hs.due
    · simpa [h] using hs.connection
  | @answered text =>
    refine { hs with
      pending := settleEntries_sound hs.pending _
      settled := fun hp => ?_ }
    have hsub := settleEntries_sublist l.pending (Message.readFrame text)
    rw [hs.settled hp] at hsub
    exact List.sublist_nil.mp hsub
  | @closed c h =>
    refine {
      pending := hs.pending.settleAll (.error (.connectionLost c))
      ended := by simp
      due := ?_
      connection := rfl
      settled := fun _ => rfl
      written := fun _ => rfl
      status := rfl }
    cases l.deadline <;> simp
  | renewed h hd =>
    exact {
      pending := .empty
      ended := by simp
      due := by simp
      connection := rfl
      settled := fun _ => rfl
      written := fun _ => rfl
      status := rfl }

end Switchboard.Link
