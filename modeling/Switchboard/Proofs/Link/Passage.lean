import Switchboard.Proofs.Link.Life

/-!
How a move takes a link on in its life. Most moves leave it where it is and do no more than write to
its connection and settle calls; the others open the connection, close it or make the next one.
-/

namespace Switchboard.Link

def Effect.isTraffic : Effect → Bool
  | .send .. => true
  | .settle _ => true
  | .forget _ => true
  | _ => false

/-- What a link passes to and what can be seen of it, apart from traffic. -/
inductive Passage (l l' : Link) : List Effect → Prop
  | stay {fs : List Effect} (epoch : l'.epoch = l.epoch) (phase : l'.phase = l.phase)
      (connection : l'.connection = l.connection) (traffic : ∀ e ∈ fs, e.isTraffic) :
      Passage l l' fs
  | opened {fs : List Effect} (connecting : l.phase = .connecting) (epoch : l'.epoch = l.epoch)
      (phase : l'.phase = .opened) (connection : l'.connection = l.connection)
      (traffic : ∀ e ∈ fs, e.isTraffic) :
      Passage l l' (.publish ⟨l.epoch, .opened⟩ :: fs)
  | closed {fs : List Effect} (going : l.phase ≠ .closed) (epoch : l'.epoch = l.epoch)
      (phase : l'.phase = .closed) (connection : l'.connection = none)
      (traffic : ∀ e ∈ fs, e.isTraffic) :
      Passage l l' (l.connection.toList.map .close ++ fs ++ [.publish ⟨l.epoch, .closed⟩])
  | renewed {fs : List Effect} (due : l.deadline.isSome) (epoch : l'.epoch = l.epoch + 1)
      (phase : l'.phase = .connecting) (connection : l'.connection = some (l.epoch + 1))
      (traffic : ∀ e ∈ fs, e.isTraffic) :
      Passage l l' (fs ++ [.connect (l.epoch + 1) l.config.url] ++
        [.publish ⟨l.epoch + 1, .connecting⟩] ++ l.callbacks.map (.notify · (l.epoch + 1)))

variable {l l' : Link} {now : Nat} {m : Moment} {fs : List Effect}

theorem isTraffic_map {f : α → Effect} (h : ∀ a, (f a).isTraffic) (as : List α) :
    ∀ e ∈ as.map f, e.isTraffic := by
  intro e he
  obtain ⟨a, -, rfl⟩ := List.mem_map.mp he
  exact h a

theorem isTraffic_flush (l : Link) (ns : List Numbered) :
    ∀ e ∈ ns.flatMap l.sends, e.isTraffic := by
  intro e he
  obtain ⟨n, -, he⟩ := List.mem_flatMap.mp he
  exact isTraffic_map (fun _ => rfl) _ e he

/-- A view of the effects that passes over log lines and traffic. -/
structure Overlooks (f : Effect → Option α) : Prop where
  log : ∀ line, f (.log line) = none
  send : ∀ E id text, f (.send E id text) = none
  settle : ∀ s, f (.settle s) = none
  forget : ∀ c, f (.forget c) = none

theorem Overlooks.filterMap_traffic {f : Effect → Option α} (hf : Overlooks f)
    (h : ∀ e ∈ fs, e.isTraffic) : fs.filterMap f = [] := by
  apply List.filterMap_eq_nil_iff.mpr
  intro e he
  have ht := h e he
  cases e with
  | send => exact hf.send _ _ _
  | settle => exact hf.settle _
  | forget => exact hf.forget _
  | connect | close | publish | notify | log => cases ht

/-- Every move is a passage. -/
theorem Move.passage (h : Move l now m l' fs) : Passage l l' fs := by
  cases h with
  | stale | fault | reopened | reclosed | early | subscribed | queued =>
    exact .stay rfl rfl rfl nofun
  | refused => exact .stay rfl rfl rfl (isTraffic_map (f := Effect.settle) (fun _ => rfl) [_])
  | written => exact .stay rfl rfl rfl (isTraffic_map (fun _ => rfl) _)
  | opened h => exact .opened h rfl rfl rfl (isTraffic_flush l l.backlog.items)
  | @answered text =>
    refine .stay rfl rfl rfl ?_
    obtain ⟨ss, hss⟩ := settleEntries_seen l.pending (Message.readFrame text)
    rw [hss]
    exact isTraffic_map (fun _ => rfl) ss
  | closed h => exact .closed h rfl rfl rfl (isTraffic_map (fun _ => rfl) _)
  | renewed h => exact .renewed (by simp [h]) rfl rfl rfl (isTraffic_map (fun _ => rfl) _)

/-- Epochs never go back. -/
theorem Move.epoch_le (h : Move l now m l' fs) : l.epoch ≤ l'.epoch := by
  cases h with
  | renewed => exact Nat.le_succ _
  | _ => exact Nat.le_refl _

/-- Nothing but the clock takes a link to its next epoch. -/
theorem Move.epoch_eq (h : Move l now m l' fs) (hm : m ≠ .clock) : l'.epoch = l.epoch := by
  cases h with
  | renewed => exact absurd rfl hm
  | _ => rfl

theorem Move.config (h : Move l now m l' fs) : l'.config = l.config := by
  cases h <;> rfl

theorem run_config (l : Link) (ms : List (Nat × Moment)) : (l.run ms).1.config = l.config := by
  induction ms generalizing l with
  | nil => rfl
  | cons m ms ih => exact (ih _).trans (l.react_move m.1 m.2).config

/-- A link that stops closes the connection it holds; the rest is overlooked. -/
theorem Overlooks.filterMap_stop {f : Effect → Option α} (hf : Overlooks f) (l : Link) :
    l.stop.filterMap f = (l.connection.toList.map Effect.close).filterMap f := by
  have hsettled : ∀ e ∈ (l.pending.settleAll (.error .stopped)).2.map Effect.settle, e.isTraffic :=
    isTraffic_map (fun _ => rfl) _
  rw [stop, note, List.cons_append, List.filterMap_cons_none (hf.log _), List.filterMap_append,
    hf.filterMap_traffic hsettled, List.append_nil]

end Switchboard.Link
