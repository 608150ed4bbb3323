import Switchboard.Proofs.Link.Told

/-!
What a link can do. `Move` lists every way a link can react to a moment, with the state after it and
the effects that can be seen. The main statement is that each reaction is a move, so that a law of a
link is a case analysis on moves.
-/

namespace Switchboard.Link

open Message (Id Request)

def sends (l : Link) (n : Numbered) : List Effect :=
  l.connection.toList.map (.send · n.id (n.request.write n.id))

inductive Move (l : Link) (now : Nat) : Moment → Link → List Effect → Prop
  | stale {epoch : Epoch} {event : Event} (h : epoch ≠ l.epoch) :
      Move l now (.input (.transport epoch event)) l []
  | fault {f : TransportFault} : Move l now (.input (.transport l.epoch (.fault f))) l []
  | reopened (h : l.phase ≠ .connecting) : Move l now (.input (.transport l.epoch .opened)) l []
  | reclosed {c : Closing} (h : l.phase = .closed) :
      Move l now (.input (.transport l.epoch (.closed c))) l []
  | early (h : ∀ d, l.deadline = some d → now < d) : Move l now .clock l []
  | subscribed {callback : Callback} :
      Move l now (.input (.subscribe callback)) { l with callbacks := l.callbacks ++ [callback] } []
  | refused {r : Request} {c : Caller} {f : Failure} (h : l.closedWith = some f) :
      Move l now (.input (.request r c)) l [.settle ⟨c, .error f⟩]
  | queued {r : Request} {c : Caller} (h : l.closedWith = none) (hp : l.phase ≠ .opened) :
      Move l now (.input (.request r c))
        { l with
          pending := l.pending.register c
          backlog := l.backlog.push ⟨l.pending.next, r⟩ }
        []
  | written {r : Request} {c : Caller} (h : l.closedWith = none) (hp : l.phase = .opened) :
      Move l now (.input (.request r c)) { l with pending := l.pending.register c }
        (l.sends ⟨l.pending.next, r⟩)
  | opened (h : l.phase = .connecting) :
      Move l now (.input (.transport l.epoch .opened))
        { l with phase := .opened, status := ⟨l.epoch, .opened⟩, backlog := {} }
        (.publish ⟨l.epoch, .opened⟩ :: l.backlog.items.flatMap l.sends)
  | answered {text : String} :
      Move l now (.input (.transport l.epoch (.message text)))
        { l with pending := (settleEntries l.pending (Message.readFrame text)).1 }
        (seen (settleEntries l.pending (Message.readFrame text)).2)
  | closed {c : Closing} (h : l.phase ≠ .closed) :
      Move l now (.input (.transport l.epoch (.closed c)))
        { l with
          phase := .closed, connection := none, backlog := {}, status := ⟨l.epoch, .closed⟩
          pending := (l.pending.settleAll (.error (.connectionLost c))).1
          closedWith := some (.connectionLost c)
          deadline := l.deadline <|> some (now + l.config.reconnectDelay) }
        (l.connection.toList.map .close ++
          (l.pending.settleAll (.error (.connectionLost c))).2.map .settle ++
          [.publish ⟨l.epoch, .closed⟩])
  | renewed {d : Nat} (h : l.deadline = some d) (hd : d ≤ now) :
      Move l now .clock
        { l with
          epoch := l.epoch + 1, phase := .connecting, connection := some (l.epoch + 1)
          pending := {}, backlog := {}, closedWith := none, deadline := none
          status := ⟨l.epoch + 1, .connecting⟩ }
        ((l.pending.waiting.map (·.2)).map .forget ++
          [.connect (l.epoch + 1) l.config.url] ++ [.publish ⟨l.epoch + 1, .connecting⟩] ++
          l.callbacks.map (.notify · (l.epoch + 1)))

theorem seen_transmit (l : Link) (n : Numbered) : seen (l.transmit n) = l.sends n := by
  unfold transmit sends
  rw [seen_append, seen_verbosely, List.nil_append]
  cases l.connection <;> rfl

theorem seen_flatMap_transmit (l : Link) (ns : List Numbered) :
    seen (ns.flatMap l.transmit) = ns.flatMap l.sends := by
  induction ns with
  | nil => rfl
  | cons n ns ih => rw [List.flatMap_cons, seen_append, seen_transmit, ih, List.flatMap_cons]

/-- A request is refused, kept back or written, as the phase has it. -/
theorem submit_move (l : Link) (now : Nat) (r : Request) (c : Caller) :
    Move l now (.input (.request r c)) (l.submit r c).1 (seen (l.submit r c).2) := by
  unfold submit
  split
  · rename_i f h
    exact .refused h
  · rename_i h
    dsimp only
    by_cases hp : l.phase = .opened
    · rw [if_pos hp, seen_transmit]
      exact .written h hp
    · rw [if_neg hp]
      exact .queued h hp

theorem onOpen_move (l : Link) (now : Nat) :
    Move l now (.input (.transport l.epoch .opened)) l.onOpen.1 (seen l.onOpen.2) := by
  unfold onOpen
  by_cases hp : l.phase = .connecting
  · rw [if_pos hp]
    simp only [publish, Backlog.flush, seen_append, seen_verbosely, seen_note, seen_nil,
      List.append_nil, seen_flatMap_transmit]
    exact .opened hp
  · rw [if_neg hp]
    exact .reopened hp

theorem onMessage_move (l : Link) (now : Nat) (text : String) :
    Move l now (.input (.transport l.epoch (.message text))) (l.onMessage text).1
      (seen (l.onMessage text).2) := by
  simp only [onMessage, seen_append, seen_verbosely, List.nil_append]
  exact .answered

/-- The first end of a connection closes the link, and later ones change nothing. -/
theorem onClose_move (l : Link) (now : Nat) (c : Closing) :
    Move l now (.input (.transport l.epoch (.closed c))) (l.onClose now c).1
      (seen (l.onClose now c).2) := by
  unfold onClose
  by_cases hp : l.phase = .closed
  · rw [if_pos hp]
    exact .reclosed hp
  · rw [if_neg hp]
    simp only [publish, seen_append, seen_verbosely, seen_note, seen_nil,
      seen_map Effect.close (fun _ => rfl), seen_map Effect.settle (fun _ => rfl),
      List.append_nil, List.nil_append]
    exact .closed hp

/-- The clock begins the next epoch if it is due, and else does nothing. -/
theorem tick_move (l : Link) (now : Nat) :
    Move l now .clock (l.tick now).1 (seen (l.tick now).2) := by
  unfold tick
  split
  · rename_i h
    exact .early (by simp [h])
  · rename_i d h
    by_cases hd : d ≤ now
    · rw [if_pos hd]
      simp only [startEpoch, connect, publish, seen_append, seen_verbosely,
        seen_map Effect.forget (fun _ => rfl), seen_map (Effect.notify · _) (fun _ => rfl),
        List.append_nil]
      exact .renewed h hd
    · rw [if_neg hd]
      refine .early fun e he => ?_
      rw [h] at he
      cases he
      omega

/-- Every reaction is a move. -/
theorem react_move (l : Link) (now : Nat) (m : Moment) :
    Move l now m (l.react now m).1 (seen (l.react now m).2) := by
  match m with
  | .clock => exact l.tick_move now
  | .input (.request r c) => exact l.submit_move now r c
  | .input (.subscribe callback) => exact .subscribed
  | .input (.transport epoch event) =>
    simp only [react, handle]
    by_cases he : epoch = l.epoch
    · subst he
      rw [if_pos rfl]
      cases event with
      | opened => exact l.onOpen_move now
      | closed c => exact l.onClose_move now c
      | message text => exact l.onMessage_move now text
      | fault f =>
        simp only [onEvent, onFault, seen_verbosely]
        exact .fault
    · rw [if_neg he]
      exact .stale he

end Switchboard.Link
