import Switchboard.Proofs.Link.Fate
import Switchboard.Proofs.Link.Passage

namespace Switchboard.Link

open Message (Id Request)

variable {ts : List Turn} {l l' : Link} {now : Nat} {m : Moment} {fs : List Effect} {c : Caller}
  {id : Id} {E : Epoch} {cl : Closing} {o : Outcome}

def heard (E : Epoch) (ms : List (Nat × Moment)) : List Entry := ms.flatMap (·.2.entries E)

/-- The ends reported by the connection of an epoch since it was made, in order. -/
def closings (E : Epoch) (ts : List Turn) : List Closing :=
  ts.filterMap fun t => if E ≤ t.before.epoch then t.moment.closing? E else none

def isAnswer : Outcome → Bool
  | .ok _ => true
  | .error (.application _) => true
  | .error (.protocol _) => true
  | _ => false

def Moment.isStale (l : Link) : Moment → Bool
  | .input (.transport e _) => e != l.epoch
  | _ => false

/-- Moments without the reports that are stale when they come. -/
def heeded (l : Link) : List (Nat × Moment) → List (Nat × Moment)
  | [] => []
  | (now, m) :: rest =>
    let others := heeded (l.react now m).1 rest
    if m.isStale l then others else (now, m) :: others

theorem closings_concat (E : Epoch) (ts : List Turn) (t : Turn) :
    closings E (ts ++ [t]) =
      closings E ts ++ (if E ≤ t.before.epoch then t.moment.closing? E else none).toList := by
  unfold closings
  rw [List.filterMap_append]
  cases h : (if E ≤ t.before.epoch then t.moment.closing? E else none) <;> simp [h]

/-- A link is closed with the first end its connection reports. -/
structure Ends (ts : List Turn) (l : Link) : Prop where
  first : l.closedWith = (closings l.epoch ts).head?.map .connectionLost
  later : ∀ E, l.epoch < E → closings E ts = []

/-- A connection that is yet to be made has reported no end. -/
theorem Ends.later_concat (he : Ends ts l) {t : Turn} (ht : t.before = l) (hE : l.epoch < E) :
    closings E (ts ++ [t]) = [] := by
  rw [closings_concat, ht, if_neg (Nat.not_le_of_lt hE), he.later E hE]
  rfl

/-- A turn in which the current connection reports no end. -/
theorem Ends.idle (he : Ends ts l) (hm : m.closing? l.epoch = none) (hl : l'.epoch = l.epoch)
    (hc : l'.closedWith = l.closedWith) : Ends (ts ++ [⟨l, now, m, l'⟩]) l' := by
  refine ⟨?_, fun E hE => he.later_concat rfl (hl ▸ hE)⟩
  rw [hl, hc, closings_concat, if_pos (Nat.le_refl _), hm, he.first]
  simp

/-- The first end reported by the current connection is the one that counts. -/
theorem Ends.close (he : Ends ts l) (hl : l'.epoch = l.epoch)
    (hc : l'.closedWith = (l.closedWith <|> some (.connectionLost cl))) :
    Ends (ts ++ [⟨l, now, .input (.transport l.epoch (.closed cl)), l'⟩]) l' := by
  refine ⟨?_, fun E hE => he.later_concat rfl (hl ▸ hE)⟩
  rw [hl, hc, closings_concat, if_pos (Nat.le_refl _), he.first]
  cases closings l.epoch ts <;> simp [Moment.closing?]

theorem Ends.renew (he : Ends ts l) (hl : l'.epoch = l.epoch + 1) (hc : l'.closedWith = none) :
    Ends (ts ++ [⟨l, now, .clock, l'⟩]) l' := by
  have hlt : l.epoch < l'.epoch := hl ▸ Nat.lt_succ_self _
  refine ⟨?_, fun E hE => he.later_concat rfl (Nat.lt_trans hlt hE)⟩
  rw [he.later_concat rfl hlt, hc]
  rfl

theorem Move.ends (h : Move l now m l' fs) (hs : l.Sound) (he : Ends ts l) :
    Ends (ts ++ [⟨l, now, m, l'⟩]) l' := by
  cases h with
  | @stale epoch event h =>
    refine he.idle ?_ rfl rfl
    cases event <;> simp [Moment.closing?, h]
  | fault | reopened | early | subscribed | refused | queued | written | opened | answered =>
    exact he.idle rfl rfl rfl
  | reclosed h =>
    refine he.close rfl ?_
    obtain ⟨f, hf⟩ := Option.isSome_iff_exists.mp (hs.ended.mpr h)
    rw [hf]
    rfl
  | closed h =>
    refine he.close rfl ?_
    rw [hs.going_of_open h]
    rfl
  | renewed => exact he.renew rfl rfl

theorem live_ends (config : Config) (ms : List (Nat × Moment)) :
    Ends (past config ms) (live config ms).1 :=
  live_induction config (motive := fun ts l _ => Ends ts l) ⟨rfl, fun _ _ => rfl⟩
    (fun hs h he => h.ends hs he) ms

/-- A connection that has been made is heard out. -/
theorem closings_turns {ms : List (Nat × Moment)} (hE : E ≤ l.epoch) :
    closings E (l.turns ms) = ms.filterMap (·.2.closing? E) := by
  induction ms generalizing l with
  | nil => rfl
  | cons m ms ih =>
    have hm := l.react_move m.1 m.2
    have hr := ih (Nat.le_trans hE hm.epoch_le)
    unfold closings at hr ⊢
    rw [turns, List.filterMap_cons, List.filterMap_cons, if_pos hE, hr]

/-- No entry stands for the end of a connection, so an outcome tells where it comes from. -/
theorem entryOutcome_ne_lost (e : Entry) : entryOutcome e ≠ .error (.connectionLost cl) := by
  unfold entryOutcome
  split
  · split <;> simp
  · simp

/-- An outcome that is no end comes from the first entry that names the id. -/
theorem verdict_answer {ms : List (Nat × Moment)} (h : verdict E id ms = some o)
    (ho : ∀ cl, o ≠ .error (.connectionLost cl)) :
    ((heard E ms).find? (names id)).map entryOutcome = some o := by
  induction ms with
  | nil => cases h
  | cons m ms ih =>
    rw [verdict_cons, Moment.outcome?] at h
    unfold heard
    rw [List.flatMap_cons, List.find?_append]
    cases he : (m.2.entries E).find? (names id) with
    | some e => simpa [he] using h
    | none =>
      cases hc : m.2.closing? E with
      | some cl =>
        have hcl : .error (.connectionLost cl) = o := by simpa [he, hc] using h
        exact absurd hcl.symm (ho cl)
      | none => exact ih (by simpa [he, hc] using h)

/-- An end comes from the first report of one. -/
theorem verdict_lost {ms : List (Nat × Moment)}
    (h : verdict E id ms = some (.error (.connectionLost cl))) :
    (ms.filterMap (·.2.closing? E)).head? = some cl := by
  induction ms with
  | nil => cases h
  | cons m ms ih =>
    rw [verdict_cons, Moment.outcome?] at h
    rw [List.filterMap_cons]
    cases he : (m.2.entries E).find? (names id) with
    | some e =>
      have hlost : entryOutcome e = .error (.connectionLost cl) := by simpa [he] using h
      exact absurd hlost (entryOutcome_ne_lost e)
    | none =>
      cases hc : m.2.closing? E with
      | some cl' => simpa [he, hc] using h
      | none => exact ih (by simpa [he, hc] using h)

/-- A fate that is no end is an entry's. A closed link has no other fate than its end. -/
theorem Ends.fate_answer {ms : List (Nat × Moment)} (he : Ends ts l) (h : fate l ms = some o)
    (ho : ∀ cl, o ≠ .error (.connectionLost cl)) :
    l.closedWith = none ∧
    ((heard l.epoch ms).find? (names l.pending.next)).map entryOutcome = some o := by
  unfold fate at h
  split at h
  · rename_i f hf
    have hfirst := he.first
    rw [hf] at hfirst
    obtain ⟨cl, -, rfl⟩ := Option.map_eq_some_iff.mp hfirst.symm
    exact absurd (Option.some.inj h).symm (ho cl)
  · rename_i hf
    exact ⟨hf, verdict_answer h ho⟩

/-- A fate that is an end is the first that the connection reports, before the call or after. -/
theorem Ends.fate_lost {ms : List (Nat × Moment)} {r : Request} (he : Ends ts l)
    (h : fate l ms = some (.error (.connectionLost cl))) :
    (closings l.epoch (ts ++ l.turns ((now, .input (.request r c)) :: ms))).head? = some cl := by
  have hfirst := he.first
  unfold closings
  rw [List.filterMap_append, List.head?_append]
  change ((closings l.epoch ts).head?.or (closings l.epoch _).head?) = some cl
  unfold fate at h
  -- A closed link has heard the end before the call, and any other has heard none so far.
  split at h
  · rename_i f hf
    rw [hf] at hfirst
    obtain ⟨cl', hcl, rfl⟩ := Option.map_eq_some_iff.mp hfirst.symm
    rw [hcl]
    simpa using h
  · rename_i hf
    rw [hf] at hfirst
    rw [Option.map_eq_none_iff.mp hfirst.symm, closings_turns (Nat.le_refl _)]
    exact verdict_lost h

/-- A caller of one call is told its fate and nothing else, by the id and epoch the call was given.
-/
theorem told_fate (config : Config) {pre post : List (Nat × Moment)} {r : Request}
    (hpre : c ∉ callers pre) (hpost : c ∉ callers post) :
    let after := live config (pre ++ (now, .input (.request r c)) :: post)
    ∀ o ∈ told c (after.2 ++ after.1.stop),
      fate (live config pre).1 post = some o ∨ o = .error .stopped := by
  intro after o ho
  obtain ⟨ht, hi⟩ := live_call config now r hpre hpost
  rw [told_append, stop_told, ht, hi] at ho
  cases hf : fate (live config pre).1 post with
  | some o' =>
    rw [hf] at ho
    exact .inl (congrArg some (List.mem_singleton.mp ho).symm)
  | none =>
    rw [hf] at ho
    exact .inr (List.mem_singleton.mp ho)

/-- A stale report changes nothing and shows only in the log. -/
theorem react_stale (now : Nat) (h : m.isStale l = true) :
    (l.react now m).1 = l ∧ seen (l.react now m).2 = [] := by
  unfold Moment.isStale at h
  split at h
  · rename_i e event
    have hne : e ≠ l.epoch := by simpa using h
    simp only [react, handle, if_neg hne]
    exact ⟨trivial, rfl⟩
  · cases h

/-- Leaving out the stale reports leaves everything else as it was. -/
theorem run_heeded (l : Link) (ms : List (Nat × Moment)) :
    (l.run (heeded l ms)).1 = (l.run ms).1 ∧ seen (l.run (heeded l ms)).2 = seen (l.run ms).2 := by
  induction ms generalizing l with
  | nil => exact ⟨rfl, rfl⟩
  | cons m ms ih =>
    obtain ⟨now, m⟩ := m
    obtain ⟨hl, hes⟩ := ih (l.react now m).1
    simp only [heeded, run, seen_append]
    cases hm : m.isStale l with
    | true =>
      obtain ⟨hsame, hnone⟩ := react_stale now hm
      rw [hsame] at hl hes ⊢
      rw [hnone]
      exact ⟨hl, hes⟩
    | false =>
      simp only [Bool.false_eq_true, ↓reduceIte, run, seen_append, hl, hes]
      exact ⟨trivial, trivial⟩

/-- A caller of one call is told only what the connection of the call has brought, although ids
restart with each connection. An answer is the first entry that names the id of the call among those
heard from the connection of its epoch since; an end is the first this connection reports. Reports
of other connections than the current one make no difference to a link but for its log. -/
theorem outcome_from_own_connection (config : Config) (ms : List (Nat × Moment))
    (h : (callers ms).Nodup) :
    (∀ pre now r c post, ms = pre ++ (now, .input (.request r c)) :: post →
      let l := (live config pre).1
      let after := live config ms
      ∀ o ∈ told c (after.2 ++ after.1.stop),
        (isAnswer o = true → ∃ id,
          (l.react now (.input (.request r c))).1.pending.caller? id = some c ∧
          ((heard l.epoch post).find? (names id)).map entryOutcome = some o) ∧
        (∀ cl, o = .error (.connectionLost cl) →
          (closings l.epoch (past config ms)).head? = some cl)) ∧
    (let pruned := live config (heeded (start config).1 ms)
    pruned.1 = (live config ms).1 ∧ seen pruned.2 = seen (live config ms).2) := by
  constructor
  · rintro pre now r c post rfl l after o ho
    obtain ⟨hpre, hpost⟩ := callers_split h
    have hs : l.Sound := live_sound config pre
    have he : Ends (past config pre) l := live_ends config pre
    have hfate := told_fate config hpre hpost o ho
    constructor
    · intro ha
      have hlost : ∀ cl, o ≠ .error (.connectionLost cl) := by
        rintro cl rfl
        cases ha
      rcases hfate with hf | rfl
      · -- A closed link would have refused the call with its end, so this one has taken it in.
        obtain ⟨hc, hfind⟩ := he.fate_answer hf hlost
        obtain ⟨-, hi⟩ := run_absent (start_sound config) (c := c) rfl hpre
        have hm := l.react_move now (.input (.request r c))
        refine ⟨l.pending.next, ?_, hfind⟩
        rw [(hm.sound hs).pending.caller?_iff, ← Pending.mem_idsOf]
        rcases hm.call hi with ⟨f, hf, -⟩ | ⟨-, -, -, hw⟩
        · rw [hc] at hf
          cases hf
        · simp [hw]
      · cases ha
    · rintro cl rfl
      rcases hfate with hf | hf
      · rw [past_append]
        exact he.fate_lost hf
      · cases hf
  · obtain ⟨hl, hes⟩ := run_heeded (start config).1 ms
    simp only [live, seen_append, hl, hes]
    exact ⟨trivial, trivial⟩

/-- A call on a closed link is told the end that was reported before it. -/
theorem refused_call_told_first_end :
    let after := live ⟨"ws://hub", 1000, false⟩ interrupted
    (callers interrupted).Nodup ∧
    .error (.connectionLost (.abort "gone")) ∈ told 8 (after.2 ++ after.1.stop) ∧
    (closings 1 (past ⟨"ws://hub", 1000, false⟩ interrupted)).head? = some (.abort "gone") := by
  intro after
  have hn : (callers interrupted).Nodup := by decide
  have ht : .error (.connectionLost (.abort "gone")) ∈ told 8 (after.2 ++ after.1.stop) :=
    .head _
  have ho := (outcome_from_own_connection ⟨"ws://hub", 1000, false⟩ interrupted hn).1
    (interrupted.take 3) 3 ⟨"list", "", ""⟩ 8 (interrupted.drop 4) rfl _ ht
  exact ⟨hn, ht, ho.2 _ rfl⟩

end Switchboard.Link
