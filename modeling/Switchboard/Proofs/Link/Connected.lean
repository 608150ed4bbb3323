import Switchboard.Proofs.Link.Passage
import Switchboard.Proofs.Link.Wire

namespace Switchboard.Link

variable {l l' : Link} {es fs : List Effect} {now : Nat} {m : Moment}

def Effect.connection? : Effect → Option (Epoch × String)
  | .connect epoch url => some (epoch, url)
  | _ => none

def Effect.closed? : Effect → Option Epoch
  | .close epoch => some epoch
  | _ => none

def connects (es : List Effect) : List (Epoch × String) := es.filterMap Effect.connection?

def closes (es : List Effect) : List Epoch := es.filterMap Effect.closed?

theorem overlooks_connection? : Overlooks Effect.connection? :=
  ⟨fun _ => rfl, fun _ _ _ => rfl, fun _ => rfl, fun _ => rfl⟩

theorem overlooks_closed? : Overlooks Effect.closed? :=
  ⟨fun _ => rfl, fun _ _ _ => rfl, fun _ => rfl, fun _ => rfl⟩

@[simp] theorem connects_append (es fs : List Effect) :
    connects (es ++ fs) = connects es ++ connects fs :=
  List.filterMap_append ..

@[simp] theorem closes_append (es fs : List Effect) : closes (es ++ fs) = closes es ++ closes fs :=
  List.filterMap_append ..

@[simp] theorem connects_seen (es : List Effect) : connects (seen es) = connects es :=
  filterMap_seen _ overlooks_connection?.log es

@[simp] theorem closes_seen (es : List Effect) : closes (seen es) = closes es :=
  filterMap_seen _ overlooks_closed?.log es

theorem connects_traffic (h : ∀ e ∈ fs, e.isTraffic) : connects fs = [] :=
  overlooks_connection?.filterMap_traffic h

theorem closes_traffic (h : ∀ e ∈ fs, e.isTraffic) : closes fs = [] :=
  overlooks_closed?.filterMap_traffic h

theorem connects_close (c : Option Epoch) : connects (c.toList.map .close) = [] := by
  cases c <;> rfl

theorem closes_close (c : Option Epoch) : closes (c.toList.map .close) = c.toList := by
  cases c <;> rfl

theorem closes_notify (callbacks : List Callback) (E : Epoch) :
    closes (callbacks.map (.notify · E)) = [] :=
  filterMap_map_none _ _ (fun _ => rfl) _

theorem connects_notify (callbacks : List Callback) (E : Epoch) :
    connects (callbacks.map (.notify · E)) = [] :=
  filterMap_map_none _ _ (fun _ => rfl) _

theorem Sound.connection_of_due (hs : l.Sound) (hd : l.deadline.isSome) : l.connection = none := by
  rw [hs.connection, if_pos (hs.due.mp hd)]

/-- A link connects when it begins an epoch, and at no other time. -/
theorem Passage.connects (h : Passage l l' fs) :
    Link.connects fs = (List.range' (l.epoch + 1) (l'.epoch - l.epoch)).map (·, l.config.url) := by
  cases h with
  | stay he hp hc ht =>
    rw [connects_traffic ht, he, Nat.sub_self]
    rfl
  | opened hp he hp' hc ht =>
    rw [he, Nat.sub_self, Link.connects, List.filterMap_cons_none rfl]
    exact connects_traffic ht
  | closed hp he hp' hc ht =>
    rw [connects_append, connects_append, connects_close, connects_traffic ht, he, Nat.sub_self]
    rfl
  | renewed hd he hp' hc ht =>
    rw [connects_append, connects_append, connects_append, connects_traffic ht, connects_notify, he,
      Nat.add_sub_cancel_left]
    rfl

/-- The connections a link holds and those it makes are, after a passage, closed or held. -/
theorem Passage.closes (h : Passage l l' fs) (hs : l.Sound) :
    Link.closes fs ++ l'.connection.toList =
      l.connection.toList ++ (Link.connects fs).map (·.1) := by
  rw [h.connects]
  cases h with
  | stay he hp hc ht =>
    rw [closes_traffic ht, hc, he, Nat.sub_self]
    exact (List.append_nil _).symm
  | opened hp he hp' hc ht =>
    rw [Link.closes, List.filterMap_cons_none rfl, ← Link.closes, closes_traffic ht, hc, he,
      Nat.sub_self]
    exact (List.append_nil _).symm
  | closed hp he hp' hc ht =>
    rw [closes_append, closes_append, closes_close, closes_traffic ht, hc, he, Nat.sub_self]
    simp [Link.closes, Effect.closed?]
  | renewed hd he hp' hc ht =>
    rw [closes_append, closes_append, closes_append, closes_traffic ht, closes_notify, hc,
      hs.connection_of_due hd, he, Nat.add_sub_cancel_left]
    rfl

/-- No connection is made while one is held. -/
theorem Passage.held_le (h : Passage l l' fs) (hs : l.Sound) :
    (Link.connects fs).length + l.connection.toList.length ≤ 1 := by
  have hheld : l.connection.toList.length ≤ 1 := by cases l.connection <;> simp
  rw [h.connects, List.length_map, List.length_range']
  cases h with
  | stay he | opened _ he | closed _ he =>
    rw [he, Nat.sub_self, Nat.zero_add]
    exact hheld
  | renewed hd he =>
    rw [hs.connection_of_due hd, he, Nat.add_sub_cancel_left]
    exact Nat.le_refl 1

/-- Whoever stops in the middle has not begun the second part, or is done with the first. -/
theorem prefix_append_cases {p : List Effect} (h : p <+: es ++ fs) :
    p <+: es ∨ ∃ q, q <+: fs ∧ p = es ++ q := by
  rcases List.prefix_or_prefix_of_prefix h (List.prefix_append es fs) with hp | ⟨q, rfl⟩
  · exact .inl hp
  · exact .inr ⟨q, (List.prefix_append_right_inj es).mp h, rfl⟩

/-- The connections a link has made and closed: one for each epoch, and all of them but the one it
holds. At no time are there two that it has not closed. -/
structure Connected (l : Link) (es : List Effect) : Prop where
  made : connects es = (List.range' 1 l.epoch).map (·, l.config.url)
  closed : closes es ++ l.connection.toList = List.range' 1 l.epoch
  single : ∀ p, p <+: es → (connects p).length ≤ (closes p).length + 1

/-- No two connections are open at any point of a move that makes one only when none is held. -/
theorem Connected.single_append (hc : Connected l es)
    (hf : (connects fs).length + l.connection.toList.length ≤ 1) :
    ∀ p, p <+: es ++ fs → (connects p).length ≤ (closes p).length + 1 := by
  intro p hp
  rcases prefix_append_cases hp with hp | ⟨q, hq, rfl⟩
  · exact hc.single p hp
  · have hle : (connects q).length ≤ (connects fs).length :=
      (hq.filterMap Effect.connection?).length_le
    have hall : (connects es).length = (closes es).length + l.connection.toList.length := by
      rw [hc.made, ← hc.closed, List.length_map, List.length_append]
    simp only [connects_append, closes_append, List.length_append]
    omega

/-- Every move makes one connection for an epoch it begins, and closes what it lets go of. -/
theorem Move.connected (h : Move l now m l' fs) (hs : l.Sound) (hc : Connected l es) :
    Connected l' (es ++ fs) := by
  have hp : Passage l l' fs := h.passage
  have hrange : List.range' 1 l.epoch ++ List.range' (l.epoch + 1) (l'.epoch - l.epoch) =
      List.range' 1 l'.epoch := by
    obtain ⟨n, hn⟩ := Nat.exists_eq_add_of_le h.epoch_le
    rw [hn, Nat.add_sub_cancel_left, Nat.add_comm l.epoch 1, List.range'_append_1]
  refine ⟨?_, ?_, hc.single_append (hp.held_le hs)⟩
  · rw [connects_append, hc.made, hp.connects, ← List.map_append, hrange, h.config]
  · rw [closes_append, List.append_assoc, hp.closes hs, ← List.append_assoc, hc.closed, hp.connects,
      List.map_map]
    exact (congrArg _ (List.map_id _)).trans hrange

theorem live_connected (config : Config) (ms : List (Nat × Moment)) :
    Connected (live config ms).1 (seen (live config ms).2) := by
  refine live_induction config (motive := fun _ l es => Connected l es) ⟨rfl, rfl, fun p hp => ?_⟩
    (fun hs hm hc => hm.connected hs hc) ms
  have hle : (connects p).length ≤ 1 := (hp.filterMap Effect.connection?).length_le
  exact Nat.le_add_left_of_le hle

theorem live_config (config : Config) (ms : List (Nat × Moment)) :
    (live config ms).1.config = config :=
  run_config (start config).1 ms

/-- The connection that a link has not closed is the last one, unless the link is closed. -/
theorem closes_early (hs : l.Sound) {cs : List Epoch}
    (h : cs ++ l.connection.toList = List.range' 1 l.epoch) :
    cs = List.range' 1 (if l.phase = .closed then l.epoch else l.epoch - 1) := by
  rw [hs.connection] at h
  by_cases hp : l.phase = .closed
  · rw [if_pos hp] at h ⊢
    exact (List.append_nil cs).symm.trans h
  · rw [if_neg hp] at h ⊢
    cases he : l.epoch with
    | zero => simp [he] at h
    | succ e =>
      rw [he, List.range'_1_concat] at h
      exact (List.append_inj' h rfl).1

theorem connects_stop (l : Link) : connects l.stop = [] :=
  (overlooks_connection?.filterMap_stop l).trans (connects_close l.connection)

theorem closes_stop (l : Link) : closes l.stop = l.connection.toList :=
  (overlooks_closed?.filterMap_stop l).trans (closes_close l.connection)

theorem sent_stop (E : Epoch) (l : Link) : sent E l.stop = [] := by
  have hclosed : sent E (l.connection.toList.map .close) = [] := sent_map E (fun _ => rfl) _
  have hsettled : sent E ((l.pending.settleAll (.error .stopped)).2.map .settle) = [] :=
    sent_map E (fun _ => rfl) _
  rw [stop, note, List.cons_append, sent, List.filterMap_cons_none rfl, ← sent, sent_append,
    hclosed, hsettled, List.append_nil]

/-- Nor are there two connections while a link stops. -/
theorem Connected.single_stop (hc : Connected l (seen es)) :
    ∀ p, p <+: es ++ l.stop → (connects p).length ≤ (closes p).length + 1 := by
  intro p hp
  have hseen : seen p <+: seen es ++ seen l.stop := by
    rw [← seen_append]
    exact hp.filter _
  have hle : (connects (seen l.stop)).length + l.connection.toList.length ≤ 1 := by
    rw [connects_seen, connects_stop]
    cases l.connection <;> simp
  have hsingle := hc.single_append hle (seen p) hseen
  rwa [connects_seen, closes_seen] at hsingle

end Switchboard.Link
