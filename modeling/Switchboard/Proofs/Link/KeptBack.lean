import Switchboard.Proofs.Link.Answered
import Switchboard.Proofs.Link.Origin
import Switchboard.Proofs.Link.Replies

namespace Switchboard.Link

open Message (Id Request)

variable {l l' : Link} {now : Nat} {m : Moment} {fs : List Effect} {E : Epoch}
  {ms : List (Nat × Moment)}

theorem heard_append (E : Epoch) (ms ms' : List (Nat × Moment)) :
    heard E (ms ++ ms') = heard E ms ++ heard E ms' :=
  List.flatMap_append

theorem live_concat (config : Config) (ms : List (Nat × Moment)) (now : Nat) (m : Moment) :
    (live config (ms ++ [(now, m)])).1 = ((live config ms).1.react now m).1 := by
  rw [live_append]
  rfl

theorem Pending.caller?_register (p : Pending) (c : Caller) {id : Id} (h : id ≠ p.next) :
    (p.register c).caller? id = p.caller? id := by
  have hne : (id == p.next) = false := beq_false_of_ne h
  unfold Pending.caller? Pending.register
  induction p.waiting with
  | nil => rw [List.nil_append, List.lookup_cons, hne]
  | cons w ws ih => rw [List.cons_append, List.lookup_cons, List.lookup_cons, ih]

theorem Pending.Sound.caller?_next {p : Pending} (hp : p.Sound) (c : Caller) :
    (p.register c).caller? p.next = some c :=
  (hp.register c).caller?_iff.mpr (List.mem_append_right _ List.mem_cons_self)

/-- A request that is kept back, with the call it was made for: put to the link in its current
epoch, under the id kept with it, and pending unless the connection has named this id since. -/
structure Owned (config : Config) (ms : List (Nat × Moment)) (l : Link) (n : Numbered) : Prop where
  given : n.id ≤ l.pending.last
  call : ∃ pre now c post, ms = pre ++ (now, .input (.request n.request c)) :: post ∧
    (live config pre).1.epoch = l.epoch ∧ (live config pre).1.pending.next = n.id ∧
    l.pending.caller? n.id = if (heard l.epoch post).any (names n.id) then none else some c

variable {config : Config} {n : Numbered}

/-- Moments that bring some entries on the calls of the epoch, and nothing else for the request. -/
theorem Owned.onward {es : List Entry} (h : Owned config ms l n) (he : l'.epoch = l.epoch)
    (hl : l.pending.last ≤ l'.pending.last) (hm : m.entries l.epoch = es)
    (hc : l'.pending.caller? n.id = if es.any (names n.id) then none else l.pending.caller? n.id) :
    Owned config (ms ++ [(now, m)]) l' n := by
  obtain ⟨pre, t, c, post, rfl, hepoch, hid, hcaller⟩ := h.call
  refine ⟨h.given.trans hl, pre, t, c, post ++ [(now, m)], by simp, hepoch.trans he.symm, hid, ?_⟩
  have hheard : heard l'.epoch (post ++ [(now, m)]) = heard l.epoch post ++ es := by
    rw [heard_append, he, ← hm]
    simp [heard]
  rw [hc, hcaller, hheard, List.any_append]
  cases (heard l.epoch post).any (names n.id) <;> simp

/-- Moments that leave the calls alone. -/
theorem Owned.idle (h : Owned config ms l n) (hm : m.entries l.epoch = []) :
    Owned config (ms ++ [(now, m)]) l n :=
  h.onward rfl (Nat.le_refl _) hm rfl

/-- Every move leaves what is kept back to calls of the current epoch. -/
theorem Move.owned (h : Move l now m l' fs) (hs : l.Sound) (hl : (live config ms).1 = l)
    (ho : ∀ n ∈ l.backlog.items, Owned config ms l n) :
    ∀ n ∈ l'.backlog.items, Owned config (ms ++ [(now, m)]) l' n := by
  intro n hn
  cases h with
  | @stale _ event he =>
    refine (ho n hn).idle ?_
    cases event with
    | message => exact if_neg he
    | _ => rfl
  | fault | reopened | reclosed | early | refused => exact (ho n hn).idle rfl
  | subscribed => exact (ho n hn).onward rfl (Nat.le_refl _) rfl rfl
  | @queued r c =>
    rcases List.mem_append.mp hn with hn | hn
    · have hne : n.id ≠ l.pending.next := Nat.ne_of_lt (Nat.lt_succ_of_le (ho n hn).given)
      exact (ho n hn).onward rfl (Nat.le_succ _) rfl (l.pending.caller?_register c hne)
    · obtain rfl := List.mem_singleton.mp hn
      refine ⟨Nat.le_refl _, ms, now, c, [], rfl, ?_, ?_, hs.pending.caller?_next c⟩
      · rw [hl]
      · rw [hl]
  | written _ hp =>
    rw [hs.written (by simp [hp])] at hn
    cases hn
  | @answered text =>
    refine (ho n hn).onward rfl (Nat.le_of_eq (settleEntries_last ..).symm) (if_pos rfl) ?_
    rw [(settleEntries_named ..).1, Pending.caller?_unnamed]
  | opened | closed | renewed => cases hn

/-- Whatever a link keeps back belongs to a call of its current epoch. -/
theorem live_owned (config : Config) (ms : List (Nat × Moment)) :
    ∀ n ∈ (live config ms).1.backlog.items, Owned config ms (live config ms).1 n := by
  induction ms using List.reverseRecOn with
  | nil => exact List.forall_mem_nil _
  | append_singleton ms m ih =>
    obtain ⟨now, m⟩ := m
    rw [live_concat]
    exact (react_move _ now m).owned (live_sound config ms) rfl ih

/-- Opening a connection writes all that was kept back, in order, whether its call waits or not. -/
theorem seen_opened (hs : l.Sound) (hp : l.phase = .connecting) (now : Nat) :
    seen (l.react now (.input (.transport l.epoch .opened))).2 =
      .publish ⟨l.epoch, .opened⟩ ::
        l.backlog.items.map fun n => .send l.epoch n.id (n.request.write n.id) := by
  have hc : l.connection = some l.epoch := by
    rw [hs.connection, if_neg (by simp [hp])]
  have hsends : l.sends = fun n => [.send l.epoch n.id (n.request.write n.id)] := by
    funext n
    rw [sends, hc]
    rfl
  generalize hm : Moment.input (.transport l.epoch .opened) = m
  have h := l.react_move now m
  generalize (l.react now m).1 = l' at h
  generalize seen (l.react now m).2 = fs at h
  cases h with
  | opened =>
    rw [hsends, ← List.map_eq_flatMap]
  | reopened hne => exact absurd hp hne
  | stale hne => cases hm; exact absurd rfl hne
  | _ => cases hm

/-- Everything kept back is the request of a call of the current epoch, under the id the call was
given. The call is pending just as long as the connection has brought no entry with this id. When
the connection opens, all that is kept back is written, in order. -/
theorem kept_back_pending_until_named (config : Config) (ms : List (Nat × Moment)) :
    let l := (live config ms).1
    (∀ n ∈ l.backlog.items, ∃ pre now c post,
      ms = pre ++ (now, .input (.request n.request c)) :: post ∧
      (live config pre).1.epoch = l.epoch ∧ (live config pre).1.pending.next = n.id ∧
      l.pending.caller? n.id = if (heard l.epoch post).any (names n.id) then none else some c) ∧
    (l.phase ≠ .connecting → l.backlog.items = []) ∧
    (l.phase = .connecting → ∀ now,
      seen (l.react now (.input (.transport l.epoch .opened))).2 =
        .publish ⟨l.epoch, .opened⟩ ::
          l.backlog.items.map fun n => .send l.epoch n.id (n.request.write n.id)) := by
  intro l
  have hs : l.Sound := live_sound config ms
  exact ⟨fun n hn => (live_owned config ms n hn).call, hs.written, seen_opened hs⟩

def connectingCall : List (Nat × Moment) := [(0, .input (.request ⟨"SET", "key", "value"⟩ 3))]

def earlyAnswer : Moment := .input (.transport 1 (.message (frameOf [.succeeded 1 .null])))

/-- The request of an answered call is kept back, and written when the connection opens. -/
theorem answered_call_written_late :
    let after := live ⟨"ws://hub", 1000, false⟩ (connectingCall ++ [(1, earlyAnswer)])
    told 3 after.2 = [.ok .null] ∧ after.1.pending.waiting = [] ∧
    after.1.backlog.items = [⟨1, ⟨"SET", "key", "value"⟩⟩] ∧
    .send 1 1 ((⟨"SET", "key", "value"⟩ : Request).write 1) ∈
      seen (after.1.react 2 (.input (.transport 1 .opened))).2 := by
  have hlegible : ∀ r ∈ [Message.Response.succeeded 1 .null], Legible r := by
    intro r hr
    obtain rfl := List.mem_singleton.mp hr
    exact ⟨⟨by decide, .null⟩, Nat.zero_le _⟩
  generalize hl : (live ⟨"ws://hub", 1000, false⟩ connectingCall).1 = l
  have hframe : (l.react 1 earlyAnswer).1 = { l with pending := ⟨1, []⟩ } ∧
      seen (l.react 1 earlyAnswer).2 = [.settle ⟨3, .ok .null⟩] := by
    rw [← hl]
    exact react_frame (live ⟨"ws://hub", 1000, false⟩ connectingCall).1 1 hlegible
  have hafter : (live ⟨"ws://hub", 1000, false⟩ (connectingCall ++ [(1, earlyAnswer)])).1 =
      { l with pending := ⟨1, []⟩ } := by
    rw [live_concat, hl, hframe.1]
  have htold : told 3 (live ⟨"ws://hub", 1000, false⟩ (connectingCall ++ [(1, earlyAnswer)])).2 =
      told 3 (l.react 1 earlyAnswer).2 := by
    simp only [live_append, told_append, run, hl, List.append_nil]
    rfl
  intro after
  refine ⟨?_, ?_, ?_, ?_⟩
  · rw [htold, ← told_seen, hframe.2]
    rfl
  · rw [hafter]
  · rw [hafter, ← hl]
    rfl
  · rw [hafter, ← hl]
    exact .tail _ (.head _)

end Switchboard.Link
