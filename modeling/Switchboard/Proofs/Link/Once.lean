import Switchboard.Proofs.Link.Fate

namespace Switchboard.Link

open Message (Id Request)

variable {l l' : Link} {now : Nat} {m : Moment} {fs : List Effect} {c : Caller} {id : Id}

theorem settleEntry_kept {p : Pending} (hp : p.Sound) (e : Entry) (hw : (id, c) ∈ p.waiting) :
    (id, c) ∈ (settleEntry p e).1.waiting ∨ told c (settleEntry p e).2 ≠ [] := by
  rw [← Pending.mem_idsOf] at hw ⊢
  rw [idsOf_settleEntry, settleEntry_told hp]
  cases hn : names id e with
  | false => exact .inl (List.mem_filter.mpr ⟨hw, by simp [hn]⟩)
  | true =>
    have ha : (p.idsOf c).any (names · e) = true := List.any_eq_true.mpr ⟨id, hw, hn⟩
    exact .inr (by simp [ha])

/-- A frame strikes out no call whose caller it does not tell. -/
theorem settleEntries_kept {p : Pending} (hp : p.Sound) (es : List Entry)
    (hw : (id, c) ∈ p.waiting) :
    (id, c) ∈ (settleEntries p es).1.waiting ∨ told c (settleEntries p es).2 ≠ [] := by
  induction es generalizing p with
  | nil => exact .inl hw
  | cons e es ih =>
    simp only [settleEntries, told_append]
    rcases settleEntry_kept hp e hw with hw' | ht
    · rcases ih (settleEntry_sound hp e) hw' with hw'' | ht
      · exact .inl hw''
      · exact .inr (by simp [ht])
    · exact .inr (by simp [ht])

/-- A call that waits goes on waiting until its caller is told. -/
theorem Move.kept (h : Move l now m l' fs) (hs : l.Sound) (hw : (id, c) ∈ l.pending.waiting) :
    (id, c) ∈ l'.pending.waiting ∨ told c fs ≠ [] := by
  cases h with
  | stale | fault | reopened | reclosed | early | subscribed | refused | opened => exact .inl hw
  | queued | written => exact .inl (List.mem_append_left _ hw)
  | answered =>
    rw [told_seen]
    exact settleEntries_kept hs.pending _ hw
  | closed =>
    right
    have hm : id ∈ l.pending.idsOf c := Pending.mem_idsOf.mpr hw
    rw [told_append, told_append, settleAll_told]
    simp [List.ne_nil_of_mem hm]
  | renewed h =>
    rw [hs.settled (hs.closed_of_due h)] at hw
    exact absurd hw List.not_mem_nil

/-- Nobody is forgotten: no call waits when a new epoch begins. -/
theorem Move.forget_not_mem (h : Move l now m l' fs) (hs : l.Sound) (c : Caller) :
    .forget c ∉ fs := by
  have hsends : ∀ ns : List Numbered, .forget c ∉ ns.flatMap l.sends := by
    intro ns hm
    obtain ⟨n, _, hm⟩ := List.mem_flatMap.mp hm
    simp [sends] at hm
  cases h with
  | stale | fault | reopened | reclosed | early | subscribed | refused | queued => simp
  | written => simpa using hsends [_]
  | opened => simpa using hsends _
  | @answered text =>
    obtain ⟨ss, hss⟩ := settleEntries_seen l.pending (Message.readFrame text)
    simp [hss]
  | closed => simp
  | renewed h => simp [hs.settled (hs.closed_of_due h)]

/-- What a link keeps back stays there, is written, or goes with the end of the connection. -/
theorem Move.kept_back (h : Move l now m l' fs) (hs : l.Sound) {n : Numbered}
    (hn : n ∈ l.backlog.items) :
    n ∈ l'.backlog.items ∨ .send l.epoch n.id (n.request.write n.id) ∈ fs ∨
    (l.phase = .connecting ∧ ∀ c, l.pending.idsOf c = [] ∨ told c fs ≠ []) := by
  have hp : l.phase = .connecting := by
    apply Decidable.byContradiction
    intro hp
    rw [hs.written hp] at hn
    exact List.not_mem_nil hn
  cases h with
  | stale | fault | reopened | reclosed | early | subscribed | refused | written | answered =>
    exact .inl hn
  | queued => exact .inl (List.mem_append_left _ hn)
  | opened =>
    refine .inr (.inl (List.mem_cons_of_mem _ (List.mem_flatMap.mpr ⟨n, hn, ?_⟩)))
    simp [sends, hs.connection, hp]
  | closed =>
    refine .inr (.inr ⟨hp, fun c => ?_⟩)
    rw [told_append, told_append, settleAll_told]
    cases l.pending.idsOf c <;> simp
  | renewed h => simp [hs.closed_of_due h] at hp

/-- A request that is not refused is kept back or written, under the next id. -/
theorem Move.entered {r : Request} (h : Move l now (.input (.request r c)) l' fs) (hs : l.Sound)
    (hp : l.phase ≠ .closed) :
    ⟨l.pending.next, r⟩ ∈ l'.backlog.items ∨
      .send l.epoch l.pending.next (r.write l.pending.next) ∈ fs := by
  cases h with
  | refused h => exact absurd (hs.closed_of_ended h) hp
  | queued => exact .inl (List.mem_append_right _ List.mem_cons_self)
  | written => exact .inr (by simp [sends, hs.connection, hp])

theorem moments_turns (l : Link) (ms : List (Nat × Moment)) :
    (l.turns ms).map (fun t => (t.now, t.moment)) = ms := by
  induction ms generalizing l with
  | nil => rfl
  | cons m ms ih => simp [turns, ih]

theorem callers_of_calls {config : Config} {ms : List (Nat × Moment)} {E : Epoch} {r : Request}
    (h : (r, c) ∈ calls E (past config ms)) : c ∈ callers ms := by
  obtain ⟨t, ht, hc⟩ := List.mem_filterMap.mp h
  have hm : (t.now, t.moment) ∈ ms := by
    rw [← moments_turns (start config).1 ms]
    exact List.mem_map_of_mem ht
  refine List.mem_filterMap.mpr ⟨_, hm, ?_⟩
  unfold Turn.call? at hc
  split at hc
  · rename_i he
    simp only [he, Moment.caller?]
    split at hc <;> simp_all
  · cases hc

theorem mem_numbered {cs : List (Request × Caller)} {n : Numbered} (h : n ∈ numbered cs) :
    ∃ i c, cs[i]? = some (n.request, c) ∧ n.id = i + 1 := by
  obtain ⟨i, hi, rfl⟩ := List.mem_mapIdx.mp h
  exact ⟨i, cs[i].2, List.getElem?_eq_getElem hi, rfl⟩

/-- Each call waits under one id, or its caller has been told one outcome. -/
theorem live_once (config : Config) {ms : List (Nat × Moment)} (h : (callers ms).Nodup)
    (hc : c ∈ callers ms) :
    (∃ id, (live config ms).1.pending.idsOf c = [id]) ∧ told c (live config ms).2 = [] ∨
    (live config ms).1.pending.idsOf c = [] ∧ ∃ o, told c (live config ms).2 = [o] := by
  obtain ⟨pre, now, r, post, rfl⟩ := mem_callers hc
  obtain ⟨hpre, hpost⟩ := callers_split h
  obtain ⟨ht, hi⟩ := live_call config now r hpre hpost
  cases hf : fate (live config pre).1 post with
  | none =>
    rw [hf] at ht hi
    exact .inl ⟨⟨_, hi⟩, ht⟩
  | some o =>
    rw [hf] at ht hi
    exact .inr ⟨hi, o, ht⟩

/-- Every call is settled once, given that each has a caller of its own. It waits under one id until
its caller is told one outcome, and a link that stops tells the callers that still wait. No reaction
forgets a caller, and none lets go of a call that waits or is kept back unless the caller is told or
the request is written. -/
theorem each_call_settled_once (config : Config) (ms : List (Nat × Moment))
    (h : (callers ms).Nodup) :
    let l := (live config ms).1
    let es := (live config ms).2
    (∀ c ∈ callers ms,
      (∃ id, l.pending.idsOf c = [id]) ∧ told c es = [] ∨
      l.pending.idsOf c = [] ∧ ∃ o, told c es = [o]) ∧
    (∀ now m,
      let l' := (l.react now m).1
      let fs := (l.react now m).2
      (∀ c, .forget c ∉ fs) ∧
      (∀ w ∈ l.pending.waiting, w ∈ l'.pending.waiting ∨ told w.2 fs ≠ []) ∧
      (∀ n ∈ l.backlog.items,
        n ∈ l'.backlog.items ∨
        .send l.epoch n.id (n.request.write n.id) ∈ fs ∨
        ∃ i c, (calls l.epoch (past config ms))[i]? = some (n.request, c) ∧ n.id = i + 1 ∧
          told c (es ++ fs) ≠ [])) ∧
    (∀ c ∈ callers ms, ∃ o, told c (es ++ l.stop) = [o]) := by
  intro l es
  have hs : l.Sound := live_sound config ms
  have hb : Books (past config ms) l := live_books config ms
  have honce := fun c hc => live_once config (c := c) h hc
  refine ⟨honce, ?_, ?_⟩
  · intro now m l' fs
    have hm : Move l now m l' (seen fs) := l.react_move now m
    refine ⟨?_, ?_, ?_⟩
    · intro c hf
      exact hm.forget_not_mem hs c (List.mem_filter.mpr ⟨hf, rfl⟩)
    · rintro ⟨id, c⟩ hw
      have hk := hm.kept hs hw
      rwa [told_seen] at hk
    · intro n hn
      rcases hm.kept_back hs hn with hk | hk | ⟨hp, hk⟩
      · exact .inl hk
      · exact .inr (.inl (List.mem_filter.mp hk).1)
      · right; right
        rw [hb.kept hp] at hn
        -- The connection has ended before it opened. Whoever called has an answer or waits.
        obtain ⟨i, c, hi, hid⟩ := mem_numbered hn
        have hc : c ∈ callers ms := callers_of_calls (List.mem_of_getElem? hi)
        refine ⟨i, c, hi, hid, fun ht => ?_⟩
        rw [told_append, List.append_eq_nil_iff] at ht
        rcases honce c hc with ⟨⟨id, hw⟩, -⟩ | ⟨-, o, ho⟩
        · rcases hk c with hk | hk
          · exact List.cons_ne_nil _ _ (hw.symm.trans hk)
          · exact hk ((told_seen c fs).trans ht.2)
        · exact List.cons_ne_nil _ _ (ho.symm.trans ht.1)
  · intro c hc
    rw [told_append, stop_told]
    rcases honce c hc with ⟨⟨id, hid⟩, ht⟩ | ⟨hid, o, ht⟩
    · exact ⟨.error .stopped, by simp [l, es, hid, ht]⟩
    · exact ⟨o, by simp [l, es, hid, ht]⟩

/-- A call that is lost, one that is refused and one that is left when the link stops: each is told
one outcome. -/
theorem interrupted_calls_settled_once :
    (callers interrupted).Nodup ∧
    ∀ c ∈ callers interrupted, ∃ o,
      told c ((live ⟨"ws://hub", 1000, false⟩ interrupted).2 ++
        (live ⟨"ws://hub", 1000, false⟩ interrupted).1.stop) = [o] := by
  have hn : (callers interrupted).Nodup := by decide
  exact ⟨hn, (each_call_settled_once _ interrupted hn).2.2⟩

end Switchboard.Link
