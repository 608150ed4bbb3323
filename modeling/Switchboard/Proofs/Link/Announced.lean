import Mathlib.Data.List.Chain
import Switchboard.Proofs.Link.Books
import Switchboard.Proofs.Link.Passage

namespace Switchboard.Link

variable {ts : List Turn} {l l' : Link} {es fs : List Effect} {now : Nat} {m : Moment}

def Phase.rank : Phase → Nat
  | .connecting => 0
  | .opened => 1
  | .closed => 2

def Status.Before (s t : Status) : Prop :=
  s.epoch < t.epoch ∨ s.epoch = t.epoch ∧ s.phase.rank < t.phase.rank

/-- The status that may follow a status: the connection opens, fails, ends or is made anew. -/
inductive Status.Next : Status → Status → Prop
  | opened (E : Epoch) : Next ⟨E, .connecting⟩ ⟨E, .opened⟩
  | failed (E : Epoch) : Next ⟨E, .connecting⟩ ⟨E, .closed⟩
  | ended (E : Epoch) : Next ⟨E, .opened⟩ ⟨E, .closed⟩
  | renewed (E : Epoch) : Next ⟨E, .closed⟩ ⟨E + 1, .connecting⟩

/-- Each status comes before the one that follows it, so no status comes back. -/
theorem Status.Next.before {s t : Status} (h : s.Next t) : s.Before t := by
  cases h with
  | opened | failed | ended => exact .inr ⟨rfl, by simp [Phase.rank]⟩
  | renewed E => exact .inl (Nat.lt_succ_self E)

theorem Status.Before.trans {s t u : Status} (hst : s.Before t) (htu : t.Before u) :
    s.Before u := by
  rcases hst with hlt | ⟨he, hr⟩
  · rcases htu with hlt' | ⟨he', -⟩
    · exact .inl (Nat.lt_trans hlt hlt')
    · exact .inl (he' ▸ hlt)
  · rcases htu with hlt' | ⟨he', hr'⟩
    · exact .inl (he ▸ hlt')
    · exact .inr ⟨he.trans he', Nat.lt_trans hr hr'⟩

instance : Trans Status.Before Status.Before Status.Before := ⟨Status.Before.trans⟩

/-- The statuses of a link. It has the first from its start, without publishing it. -/
def statuses (es : List Effect) : List Status := ⟨1, .connecting⟩ :: published es

/-- A status that changes does so to one of those that may follow. -/
theorem Passage.next (h : Passage l l' fs) (hs : l.Sound) (hs' : l'.Sound)
    (hne : l'.status ≠ l.status) : l.status.Next l'.status := by
  rw [hs.status, hs'.status] at *
  cases h with
  | stay he hp => exact absurd (by rw [he, hp]) hne
  | opened hp he hp' =>
    rw [he, hp, hp']
    exact .opened _
  | closed hp he hp' =>
    rw [he, hp']
    cases hq : l.phase with
    | connecting => exact .failed _
    | opened => exact .ended _
    | closed => exact absurd hq hp
  | renewed hd he hp' =>
    rw [he, hp', hs.due.mp hd]
    exact .renewed _

structure Forward (l : Link) (es : List Effect) : Prop where
  chain : (statuses es).IsChain Status.Next
  last : (statuses es).getLast? = some l.status

/-- Every move takes the statuses forward. -/
theorem Move.forward (h : Move l now m l' fs) (hs : l.Sound) (hf : Forward l es) :
    Forward l' (es ++ fs) := by
  have hstatuses : statuses (es ++ fs) = statuses es ++ Link.published fs := by
    rw [statuses, published_append]
    rfl
  rw [h.published hs] at hstatuses
  by_cases he : l'.status = l.status
  · rw [if_pos he, List.append_nil] at hstatuses
    exact ⟨hstatuses ▸ hf.chain, by rw [hstatuses, he, hf.last]⟩
  · rw [if_neg he] at hstatuses
    refine ⟨hstatuses ▸ hf.chain.append (.singleton _) ?_, hstatuses ▸ List.getLast?_concat⟩
    intro s hlast t ht
    rw [hf.last] at hlast
    cases hlast
    cases ht
    exact h.passage.next hs (h.sound hs) he

theorem live_forward (config : Config) (ms : List (Nat × Moment)) :
    Forward (live config ms).1 (seen (live config ms).2) :=
  live_induction config (motive := fun _ l es => Forward l es) ⟨.singleton _, rfl⟩
    (fun hs h hf => h.forward hs hf) ms

def Turn.callback? (E : Epoch) (t : Turn) : Option Callback :=
  match t.moment with
  | .input (.subscribe callback) => if t.before.epoch < E then some callback else none
  | _ => none

def subscribers (E : Epoch) (ts : List Turn) : List Callback := ts.filterMap (Turn.callback? E)

def Effect.notice? : Effect → Option (Callback × Epoch)
  | .notify callback epoch => some (callback, epoch)
  | _ => none

def notices (es : List Effect) : List (Callback × Epoch) := es.filterMap Effect.notice?

/-- The calls that are due in the epochs from the second to `E`: those who have subscribed before
an epoch are told of it, in the order of their subscriptions. -/
def owed (E : Epoch) (ts : List Turn) : List (Callback × Epoch) :=
  (List.range' 2 (E - 1)).flatMap fun e => (subscribers e ts).map (·, e)

theorem subscribers_concat (E : Epoch) (ts : List Turn) (t : Turn) :
    subscribers E (ts ++ [t]) = subscribers E ts ++ (t.callback? E).toList := by
  unfold subscribers
  rw [List.filterMap_append]
  cases h : t.callback? E <;> simp [h]

theorem overlooks_status? : Overlooks Effect.status? :=
  ⟨fun _ => rfl, fun _ _ _ => rfl, fun _ => rfl, fun _ => rfl⟩

theorem overlooks_notice? : Overlooks Effect.notice? :=
  ⟨fun _ => rfl, fun _ _ _ => rfl, fun _ => rfl, fun _ => rfl⟩

theorem notices_traffic (h : ∀ e ∈ fs, e.isTraffic) : notices fs = [] :=
  overlooks_notice?.filterMap_traffic h

@[simp] theorem notices_append (es fs : List Effect) :
    notices (es ++ fs) = notices es ++ notices fs :=
  List.filterMap_append ..

theorem notices_notify (callbacks : List Callback) (E : Epoch) :
    notices (callbacks.map (.notify · E)) = callbacks.map (·, E) := by
  induction callbacks with
  | nil => rfl
  | cons c cs ih => exact congrArg (List.cons _) ih

/-- With each epoch, those who have subscribed before it are owed one more call. -/
theorem owed_succ (E : Epoch) (ts : List Turn) (hE : 1 ≤ E) :
    owed (E + 1) ts = owed E ts ++ (subscribers (E + 1) ts).map (·, E + 1) := by
  obtain ⟨n, rfl⟩ := Nat.exists_eq_add_of_le hE
  have hrange : List.range' 2 (1 + n + 1 - 1) = List.range' 2 n ++ [1 + n + 1] := by
    rw [show 1 + n + 1 - 1 = n + 1 by omega, List.range'_1_concat, show 2 + n = 1 + n + 1 by omega]
  rw [owed, owed, hrange, show 1 + n - 1 = n by omega, List.flatMap_append, List.flatMap_singleton]

/-- What the turns so far say of the callbacks of a link, and of those it has called. -/
structure Roll (ts : List Turn) (l : Link) (es : List Effect) : Prop where
  first : 1 ≤ l.epoch
  callbacks : ∀ E, l.epoch < E → subscribers E ts = l.callbacks
  told : notices es = owed l.epoch ts

/-- A turn that subscribes nobody and calls nobody. -/
theorem Roll.idle {t : Turn} (hr : Roll ts l es) (ht : ∀ E, t.callback? E = none)
    (hf : notices fs = []) (he : l'.epoch = l.epoch) (hc : l'.callbacks = l.callbacks) :
    Roll (ts ++ [t]) l' (es ++ fs) := by
  have hsame : ∀ E, subscribers E (ts ++ [t]) = subscribers E ts := by
    intro E
    rw [subscribers_concat, ht]
    exact List.append_nil _
  refine ⟨he ▸ hr.first, fun E hE => ?_, ?_⟩
  · rw [hsame, hc]
    exact hr.callbacks E (he ▸ hE)
  · rw [notices_append, hf, List.append_nil, hr.told, he]
    simp only [owed, hsame]

/-- A subscription is for the epochs to come. -/
theorem Roll.subscribe {callback : Callback} (hr : Roll ts l es) (he : l'.epoch = l.epoch)
    (hc : l'.callbacks = l.callbacks ++ [callback]) :
    Roll (ts ++ [⟨l, now, .input (.subscribe callback), l'⟩]) l' (es ++ []) := by
  have hsame : ∀ E, subscribers E (ts ++ [⟨l, now, .input (.subscribe callback), l'⟩]) =
      subscribers E ts ++ if l.epoch < E then [callback] else [] := by
    intro E
    rw [subscribers_concat]
    by_cases hE : l.epoch < E <;> simp [Turn.callback?, hE]
  refine ⟨he ▸ hr.first, fun E hE => ?_, ?_⟩
  · rw [he] at hE
    rw [hsame, if_pos hE, hc, hr.callbacks E hE]
  · rw [List.append_nil, hr.told, he, owed, owed]
    refine List.flatMap_congr fun e hmem => ?_
    obtain ⟨-, hlt⟩ := List.mem_range'_1.mp hmem
    have hfirst : (1 : Nat) ≤ l.epoch := hr.first
    have hnot : ¬ l.epoch < e := Nat.not_lt.mpr (by omega)
    rw [hsame, if_neg hnot, List.append_nil]

/-- A new epoch is told to all who have subscribed so far. -/
theorem Roll.renew (hr : Roll ts l es) (he : l'.epoch = l.epoch + 1)
    (hc : l'.callbacks = l.callbacks) (hf : notices fs = l.callbacks.map (·, l.epoch + 1)) :
    Roll (ts ++ [⟨l, now, .clock, l'⟩]) l' (es ++ fs) := by
  have hsame : ∀ E, subscribers E (ts ++ [⟨l, now, .clock, l'⟩]) = subscribers E ts := by
    intro E
    rw [subscribers_concat]
    exact List.append_nil _
  refine ⟨he ▸ Nat.succ_pos _, fun E hE => ?_, ?_⟩
  · rw [hsame, hc]
    exact hr.callbacks E (Nat.lt_of_succ_lt (by rwa [he] at hE))
  · rw [he, owed_succ _ _ hr.first, notices_append, hf, hr.told]
    simp only [owed, hsame, hr.callbacks _ (Nat.lt_succ_self _)]

/-- Callbacks are called when a link begins an epoch, and at no other time. -/
theorem Passage.notices (h : Passage l l' fs) :
    Link.notices fs = if l'.epoch = l.epoch then [] else l.callbacks.map (·, l.epoch + 1) := by
  cases h with
  | stay he hp hc ht =>
    rw [if_pos he, notices_traffic ht]
  | opened hp he hp' hc ht =>
    rw [if_pos he, Link.notices, List.filterMap_cons_none rfl]
    exact notices_traffic ht
  | closed hp he hp' hc ht =>
    rw [if_pos he, notices_append, notices_append, notices_traffic ht]
    cases l.connection <;> rfl
  | renewed hd he hp' hc ht =>
    have hne : l'.epoch ≠ l.epoch := by
      rw [he]
      exact Nat.succ_ne_self _
    rw [if_neg hne, notices_append, notices_append, notices_append, notices_traffic ht,
      notices_notify]
    rfl

theorem Move.roll (h : Move l now m l' fs) (hr : Roll ts l es) :
    Roll (ts ++ [⟨l, now, m, l'⟩]) l' (es ++ fs) := by
  have hn := h.passage.notices
  cases h with
  | stale | fault | reopened | reclosed | early | refused | queued | written | opened | answered
  | closed =>
    rw [if_pos rfl] at hn
    exact hr.idle (fun _ => rfl) hn rfl rfl
  | subscribed => exact hr.subscribe rfl rfl
  | renewed =>
    rw [if_neg (Nat.succ_ne_self _)] at hn
    exact hr.renew rfl rfl hn

theorem live_roll (config : Config) (ms : List (Nat × Moment)) :
    Roll (past config ms) (live config ms).1 (seen (live config ms).2) :=
  live_induction config (motive := fun ts l es => Roll ts l es)
    ⟨Nat.le_refl 1, fun _ _ => rfl, rfl⟩ (fun _ h hr => h.roll hr) ms

/-- A callback is told of an epoch only after the epoch has been published as connecting. -/
def AfterStatus (es : List Effect) : Prop :=
  ∀ before callback E after, es = before ++ .notify callback E :: after →
    .publish ⟨E, .connecting⟩ ∈ before

theorem AfterStatus.append (he : AfterStatus es) (hf : AfterStatus fs) : AfterStatus (es ++ fs) := by
  intro before callback E after h
  rcases List.append_eq_append_iff.mp h with ⟨as, rfl, hfs⟩ | ⟨bs, hes, hbs⟩
  · exact List.mem_append_right _ (hf as callback E after hfs)
  · cases bs with
    | nil => exact absurd (hf [] callback E after hbs.symm) List.not_mem_nil
    | cons b bs =>
      cases hbs
      exact he before callback E bs hes

theorem AfterStatus.silent (h : notices fs = []) : AfterStatus fs := by
  rintro before callback E after rfl
  simp [notices, Effect.notice?] at h

/-- Callbacks may follow once their epoch has been published as connecting. -/
theorem AfterStatus.call {E : Epoch} (h : notices fs = []) (hp : .publish ⟨E, .connecting⟩ ∈ fs)
    (callbacks : List Callback) : AfterStatus (fs ++ callbacks.map (.notify · E)) := by
  intro before callback E' after he
  obtain ⟨as, rfl, hcalls⟩ : ∃ as, before = fs ++ as ∧
      callbacks.map (Effect.notify · E) = as ++ .notify callback E' :: after := by
    rcases List.append_eq_append_iff.mp he with hsplit | ⟨bs, hfs, hbs⟩
    · exact hsplit
    · cases bs with
      | nil => exact ⟨[], by simpa using hfs.symm, hbs.symm⟩
      | cons b bs =>
        cases hbs
        simp [hfs, notices, Effect.notice?] at h
  have hmem : .notify callback E' ∈ callbacks.map (Effect.notify · E) := by simp [hcalls]
  have hE : E = E' := by
    obtain ⟨c, -, hc⟩ := List.mem_map.mp hmem
    cases hc
    rfl
  subst hE
  exact List.mem_append_left _ hp

/-- No passage calls back before it publishes. -/
theorem Passage.afterStatus (h : Passage l l' fs) : AfterStatus fs := by
  have hn := h.notices
  cases h with
  | stay he | opened _ he | closed _ he =>
    rw [if_pos he] at hn
    exact .silent hn
  | renewed hd he hp hc ht =>
    refine .call ?_ (by simp) l.callbacks
    rw [notices_append, notices_append, notices_traffic ht]
    rfl

theorem live_afterStatus (config : Config) (ms : List (Nat × Moment)) :
    AfterStatus (seen (live config ms).2) :=
  live_induction config (motive := fun _ _ es => AfterStatus es) (.silent rfl)
    (fun _ h ha => ha.append h.passage.afterStatus) ms

/-- The statuses of a link go forward: by epoch, and in an epoch from connecting to open to closed,
one step at a time. Whoever has subscribed in an epoch is told of each later epoch, once for each
subscription and in their order, and of nothing else; each is told after the epoch has been
published. A link that stops announces nothing. -/
theorem announcements_follow_lifecycle (config : Config) (ms : List (Nat × Moment)) :
    let l := (live config ms).1
    let es := (live config ms).2
    (statuses es).Pairwise Status.Before ∧
    (statuses es).IsChain Status.Next ∧
    (statuses es).getLast? = some ⟨l.epoch, l.phase⟩ ∧
    notices es = (List.range' 2 (l.epoch - 1)).flatMap
      (fun E => (subscribers E (past config ms)).map (·, E)) ∧
    (∀ before callback E after, es = before ++ .notify callback E :: after →
      .publish ⟨E, .connecting⟩ ∈ before) ∧
    published l.stop = [] ∧ notices l.stop = [] := by
  intro l es
  have hs : l.Sound := live_sound config ms
  have hf : Forward l (seen es) := live_forward config ms
  have hr : Roll (past config ms) l (seen es) := live_roll config ms
  have ha : AfterStatus (seen es) := live_afterStatus config ms
  have hstatuses : statuses (seen es) = statuses es :=
    congrArg (List.cons _) (filterMap_seen _ overlooks_status?.log es)
  have hnext : (statuses es).IsChain Status.Next := hstatuses ▸ hf.chain
  refine ⟨(hnext.imp fun _ _ h => h.before).pairwise, hnext, ?_, ?_, ?_, ?_, ?_⟩
  · rw [← hstatuses, hf.last, hs.status]
  · have htold := hr.told
    rwa [notices, filterMap_seen _ overlooks_notice?.log] at htold
  · intro before callback E after he
    have hseen : seen es = seen before ++ .notify callback E :: seen after := by
      rw [he, seen_append]
      rfl
    exact (List.mem_filter.mp (ha _ _ _ _ hseen)).1
  · rw [published, overlooks_status?.filterMap_stop]
    cases l.connection <;> rfl
  · rw [notices, overlooks_notice?.filterMap_stop]
    cases l.connection <;> rfl

end Switchboard.Link
