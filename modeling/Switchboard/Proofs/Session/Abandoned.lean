import Mathlib.Data.List.Nodup
import Switchboard.Proofs.Session.Blind

namespace Switchboard.Session

open Link (Caller Effect Input)

variable {s s' : Session} {gone : List Caller}

def Step.stay : Step → Step
  | .abandon _ => .wait
  | st => st

def quitting (s : Session) (st : Step) : List Caller :=
  match st.drops? with
  | some label => (s.calls.filter (·.label == label)).map (·.caller)
  | none => []

/-- The callers whose calls are dropped on the way. -/
def quitters (s : Session) : List (Bool × Step) → List Caller
  | [] => []
  | (held, st) :: rest => s.quitting st ++ quitters (s.step held st).2.1 rest

def toldAt (s : Session) (held : Bool) (st : Step) : List Call :=
  if held then [] else ((s.take st).2.andThen settleDown).1.calls.filter (·.isDone)

def toldCalls (s : Session) : List (Bool × Step) → List (List Call)
  | [] => []
  | (held, st) :: rest => s.toldAt held st :: toldCalls (s.step held st).2.1 rest

/-- What a view shows apart from what calls are told. -/
def View.others (v : View) : Return × List Note × List (String × Link.Status) :=
  (v.returned, v.notes.filter Note.isSilent, v.statuses)

theorem Enrols.free {st : Step} (h : Enrols s st s') (hst : st.drops? = none) (hf : Free gone s) :
    Free gone s' := by
  cases h with
  | same calls callers => exact (SameCalls.of_eq calls callers).free hf
  | made calls caller callers =>
    refine ⟨fun x hx => callers ▸ Nat.lt_succ_of_lt (hf.come x hx), fun e he hx => ?_⟩
    rw [roll_concat calls] at he
    rcases List.mem_append.mp he with he | he
    · exact hf.plain e he hx
    · obtain rfl := List.mem_singleton.mp he
      exact absurd (caller ▸ hf.come _ hx) (Nat.lt_irrefl _)
  | dropped drops => rw [hst] at drops; cases drops

theorem Enrolled.entry_eq (h : Enrolled s) {c d : Call} (hc : c ∈ s.calls) (hd : d ∈ s.calls)
    (he : c.caller = d.caller) : c.entry = d.entry :=
  List.inj_on_of_nodup_map h.single (List.mem_map_of_mem hc) (List.mem_map_of_mem hd) he

/-- Dropping the calls of a label is leaving of their callers. -/
theorem without_quitting (h : Enrolled s) (gone : List Caller) (label : String) :
    { s.without gone with calls := (s.without gone).calls.filter (·.label != label) } =
      s.without (gone ++ (s.without gone).quitting (.abandon label)) := by
  simp only [without, List.filter_filter]
  congr 1
  refine List.filter_congr fun c hc => ?_
  rw [Bool.eq_iff_iff]
  simp only [quitting, Step.drops?, Bool.and_eq_true, bne_iff_ne, decide_eq_true_eq,
    List.mem_append, not_or, and_comm (a := c.label ≠ label)]
  refine and_congr_right fun hstays => ⟨fun hlabel hm => ?_, fun hm hlabel => ?_⟩
  · obtain ⟨d, hd, hcaller⟩ := List.mem_map.mp hm
    simp only [List.mem_filter, beq_iff_eq] at hd
    obtain ⟨⟨hd, -⟩, hdropped⟩ := hd
    have hentry := h.entry_eq hd hc hcaller
    have hsame : d.label = c.label := congrArg (fun e => e.2.1) hentry
    exact hlabel (hsame.symm.trans hdropped)
  · refine hm (List.mem_map.mpr ⟨c, ?_, rfl⟩)
    simp [hc, hstays, hlabel]

/-- Callers who leave at a step may leave. -/
theorem Free.quitting (h : Free gone s) (he : Enrolled s) (st : Step)
    (hplain : ∀ label, st.drops? = some label → ∀ e ∈ s.roll, e.2.1 = label → e.2.2 = false) :
    Free (gone ++ (s.without gone).quitting st) s := by
  have hleft : ∀ x ∈ (s.without gone).quitting st, ∃ c ∈ s.calls, c.caller = x ∧
      st.drops? = some c.label := by
    intro x hx
    cases hd : st.drops? with
    | none =>
      rw [Session.quitting, hd] at hx
      cases hx
    | some label =>
      rw [Session.quitting, hd] at hx
      obtain ⟨c, hc, rfl⟩ := List.mem_map.mp hx
      simp only [without, List.mem_filter, beq_iff_eq] at hc
      exact ⟨c, hc.1.1, rfl, by rw [hc.2]⟩
  constructor
  · intro x hx
    rcases List.mem_append.mp hx with hx | hx
    · exact h.come x hx
    · obtain ⟨c, hc, rfl, -⟩ := hleft x hx
      exact he.born c.entry (List.mem_map_of_mem hc)
  · intro e hm hx
    rcases List.mem_append.mp hx with hx | hx
    · exact h.plain e hm hx
    · obtain ⟨c, hc, hcaller, hdrops⟩ := hleft _ hx
      obtain ⟨d, hd, rfl⟩ := List.mem_map.mp hm
      have hentry := he.entry_eq hd hc hcaller.symm
      exact hplain _ hdrops d.entry hm (congrArg (fun e => e.2.1) hentry)

/-- A step that drops calls is taken as one that drops none, by a session without the callers who
leave. -/
theorem take_parts (h : Free gone s) (he : Enrolled s) (st : Step) :
    TakenAlike (gone ++ (s.without gone).quitting st) ((s.without gone).take st)
      (s.take st.stay) := by
  cases hd : st.drops? with
  | some label =>
    cases st with
    | abandon l => exact congrArg (fun t => (Return.nothing, t, [])) (without_quitting he gone l)
    | _ => cases hd
  | none =>
    have hstay : st.stay = st := by
      cases st with
      | abandon => cases hd
      | _ => rfl
    have hnobody : (s.without gone).quitting st = [] := by rw [quitting, hd]
    rw [hnobody, List.append_nil, hstay]
    exact take_alike h st hd

/-- What is seen of a step with callers who leave, against the same step with nobody leaving. -/
structure Parts (gone : List Caller) (s : Session) (held : Bool) (st : Step) : Prop where
  free : Free (gone ++ (s.without gone).quitting st) (s.step held st.stay).2.1
  returned : ((s.without gone).step held st).1 = (s.step held st.stay).1
  session : ((s.without gone).step held st).2.1 =
    (s.step held st.stay).2.1.without (gone ++ (s.without gone).quitting st)
  notes : ((s.without gone).step held st).2.2.filter Note.isSilent =
    (s.step held st.stay).2.2.filter Note.isSilent
  told : (s.without gone).toldAt held st = (s.toldAt held st.stay).filter fun c =>
    c.caller ∉ gone ++ (s.without gone).quitting st

theorem stay_drops (st : Step) : st.stay.drops? = none := by
  cases st <;> rfl

def idle (s : Session) (st : Step) : Change := (s.take st).2.andThen settleDown

theorem step_unheld (s : Session) (st : Step) :
    s.step false st = ((s.take st).1, (s.idle st).andThen tell) := by
  simp only [step, Bool.false_eq_true, ↓reduceIte, idle]

theorem toldAt_unheld (s : Session) (st : Step) :
    s.toldAt false st = (s.idle st).1.calls.filter (·.isDone) := by
  simp only [toldAt, Bool.false_eq_true, ↓reduceIte, idle]

theorem Free.tell (h : Free gone s) : Free gone (tell s).1 :=
  ⟨h.come, fun e he => h.plain e ((tell_roll s).subset he)⟩

/-- A step shows the same with the callers who leave as without, apart from what they are told. -/
theorem step_parts (h : Free gone s) (he : Enrolled s) (held : Bool) (st : Step)
    (hplain : ∀ label, st.drops? = some label → ∀ e ∈ s.roll, e.2.1 = label → e.2.2 = false) :
    Parts gone s held st := by
  have htake : (s.without gone).take st = _ := take_parts h he st
  have hfree := (take_enrols s st.stay).free (stay_drops st) (h.quitting he st hplain)
  cases held with
  | true =>
    have hstep : (s.without gone).step true st = _ := htake
    exact ⟨hfree, by rw [hstep]; rfl, by rw [hstep]; rfl, by rw [hstep]; rfl, rfl⟩
  | false =>
    have hsettle := settleDown_blind hfree
    have hidle : (s.without gone).idle st =
        ((s.idle st.stay).1.without (gone ++ (s.without gone).quitting st),
          (s.idle st.stay).2) := by
      simp only [idle, Change.andThen, htake, hsettle.same]
    have hleft : Free (gone ++ (s.without gone).quitting st) (s.idle st.stay).1 := by
      rw [idle, Change.andThen_fst]
      exact hsettle.calls.free hfree
    constructor
    · rw [step_unheld, Change.andThen_fst]
      exact hleft.tell
    · rw [step_unheld, step_unheld, htake]
    · rw [step_unheld, step_unheld, hidle, Change.andThen_fst, Change.andThen_fst, tell_without]
    · rw [step_unheld, step_unheld, hidle]
      simp only [Change.andThen, List.filter_append, tell_silent]
      rw [watchedNotes_without]
    · rw [toldAt_unheld, toldAt_unheld, hidle]
      simp only [without, List.filter_filter]
      exact List.filter_congr fun c _ => Bool.and_comm _ _

theorem idle_enrolled (h : Enrolled s) (st : Step) : Enrolled (s.idle st).1 := by
  rw [idle, Change.andThen_fst]
  exact (settleDown_sameCalls _).enrolled ((take_enrols s st).enrolled h)

/-- Whoever has a call after a step had it before or has come with the step. -/
theorem step_callers (s : Session) (held : Bool) (st : Step) :
    s.callers ≤ (s.step held st).2.1.callers ∧
      ∀ e ∈ (s.step held st).2.1.roll,
        e ∈ s.roll ∨ s.callers ≤ e.1 ∧ (st.asks? = some e.2.1 ∨ e.2.2 = false) := by
  have htaken : s.callers ≤ (s.take st).2.1.callers ∧
      ∀ e ∈ (s.take st).2.1.roll,
        e ∈ s.roll ∨ s.callers ≤ e.1 ∧ (st.asks? = some e.2.1 ∨ e.2.2 = false) := by
    cases take_enrols s st with
    | same calls callers =>
      have hroll := (SameCalls.of_eq calls callers).roll
      exact ⟨Nat.le_of_eq callers.symm, fun e he => .inl (hroll ▸ he)⟩
    | made calls caller callers asks =>
      refine ⟨callers ▸ Nat.le_succ _, fun e he => ?_⟩
      rw [roll_concat calls] at he
      refine (List.mem_append.mp he).imp_right fun he => ?_
      obtain rfl := List.mem_singleton.mp he
      exact ⟨Nat.le_of_eq caller.symm, asks⟩
    | dropped _ calls =>
      rw [calls]
      exact ⟨Nat.le_refl _, fun e he => .inl ((List.filter_sublist.map _).subset he)⟩
  cases held with
  | true => exact htaken
  | false =>
    have hsettled := settleDown_sameCalls (s.take st).2.1
    rw [step_unheld, Change.andThen_fst, idle, Change.andThen_fst, tell_callers, hsettled.callers]
    refine ⟨htaken.1, fun e he => htaken.2 e ?_⟩
    rw [← hsettled.roll]
    exact (tell_roll _).subset he

/-- Whoever leaves on the way has a call already or is yet to come. -/
theorem mem_quitters (sts : List (Bool × Step)) {x : Caller} (h : x ∈ s.quitters sts) :
    s.callers ≤ x ∨ ∃ e ∈ s.roll, e.1 = x := by
  induction sts generalizing s with
  | nil => cases h
  | cons st sts ih =>
    obtain ⟨held, st⟩ := st
    rcases List.mem_append.mp h with h | h
    · right
      unfold quitting at h
      split at h
      · obtain ⟨c, hc, rfl⟩ := List.mem_map.mp h
        exact ⟨c.entry, List.mem_map_of_mem (List.mem_filter.mp hc).1, rfl⟩
      · cases h
    · obtain ⟨hcallers, hroll⟩ := step_callers s held st
      rcases ih h with h | ⟨e, he, rfl⟩
      · exact .inl (Nat.le_trans hcallers h)
      · rcases hroll e he with he | ⟨hle, -⟩
        · exact .inr ⟨e, he, rfl⟩
        · exact .inl hle

/-- Whoever is told has no call any more. -/
theorem told_has_left (h : Enrolled s) (held : Bool) (st : Step) {c : Call}
    (hc : c ∈ s.toldAt held st) :
    c.caller < (s.step held st).2.1.callers ∧
      ∀ e ∈ (s.step held st).2.1.roll, e.1 ≠ c.caller := by
  cases held with
  | true => cases hc
  | false =>
    rw [toldAt_unheld] at hc
    rw [step_unheld, Change.andThen_fst]
    have hidle := idle_enrolled h st
    generalize (s.idle st).1 = t at hc hidle
    obtain ⟨hc, hdone⟩ := List.mem_filter.mp hc
    refine ⟨hidle.born c.entry (List.mem_map_of_mem hc), fun e he hcaller => ?_⟩
    obtain ⟨d, hd, rfl⟩ := List.mem_map.mp he
    obtain ⟨hd, hgoing⟩ := List.mem_filter.mp hd
    have hsingle : (t.calls.map (·.caller)).Nodup := by
      have := hidle.single
      rwa [roll, List.map_map] at this
    obtain rfl := List.inj_on_of_nodup_map hsingle hd hc hcaller
    simp [hdone] at hgoing

/-- Whoever is told does not leave later. -/
theorem told_not_quitters (h : Enrolled s) (gone : List Caller) (held : Bool) (st : Step) {c : Call}
    (hc : c ∈ s.toldAt held st) (sts : List (Bool × Step)) :
    c.caller ∉ ((s.step held st).2.1.without gone).quitters sts := by
  obtain ⟨hlt, hleft⟩ := told_has_left h held st hc
  intro hm
  rcases mem_quitters sts hm with hle | ⟨e, he, hcaller⟩
  · exact absurd hle (Nat.not_le.mpr hlt)
  · exact hleft e ((List.filter_sublist.map _).subset he) hcaller

/-- Calls of labels that are dropped do not go on once they are settled. -/
def Plain (labels : List String) (s : Session) : Prop :=
  ∀ e ∈ s.roll, e.2.1 ∈ labels → e.2.2 = false

/-- Labels that are not asked again stay plain. -/
theorem Plain.step {labels : List String} (h : Plain labels s) (held : Bool) {st : Step}
    (hst : ∀ label ∈ labels, st.asks? ≠ some label) : Plain labels (s.step held st).2.1 := by
  intro e he hlabel
  rcases (step_callers s held st).2 e he with he | ⟨-, hasks | hplain⟩
  · exact h e he hlabel
  · exact absurd hasks (hst _ hlabel)
  · exact hplain

theorem stay_asks (st : Step) : st.stay.asks? = st.asks? := by
  cases st <;> rfl

theorem filter_filter_append {gone later : List Caller} {cs : List Call}
    (h : ∀ c ∈ cs, c.caller ∉ later) :
    (cs.filter fun c => c.caller ∉ gone) = cs.filter fun c => c.caller ∉ gone ++ later := by
  refine List.filter_congr fun c hc => ?_
  simp [h c hc]

/-- Steps with callers who leave show what they show with nobody leaving, apart from what those are
told who leave. -/
theorem run_parts {labels : List String} (sts : List (Bool × Step)) (h : Free gone s)
    (he : Enrolled s) (hplain : Plain labels s)
    (hdrops : ∀ st ∈ sts, ∀ label, st.2.drops? = some label → label ∈ labels)
    (hasks : ∀ st ∈ sts, ∀ label ∈ labels, st.2.asks? ≠ some label) :
    let stayed := sts.map fun st => (st.1, st.2.stay)
    let left := gone ++ (s.without gone).quitters sts
    ((s.without gone).run sts).1 = (s.run stayed).1.without left ∧
    ((s.without gone).views sts).map View.others = (s.views stayed).map View.others ∧
    (s.without gone).toldCalls sts =
      (s.toldCalls stayed).map fun cs => cs.filter fun c => c.caller ∉ left := by
  -- Those who have left by now are put aside in `gone`, which grows from step to step.
  induction sts generalizing s gone with
  | nil => simp [run, views, toldCalls, quitters]
  | cons st sts ih =>
    obtain ⟨held, st⟩ := st
    obtain ⟨hdrop, hdrops⟩ := List.forall_mem_cons.mp hdrops
    obtain ⟨hask, hasks⟩ := List.forall_mem_cons.mp hasks
    have hp : Parts gone s held st :=
      step_parts h he held st fun label hd e hm hl => hplain e hm (hl ▸ hdrop label hd)
    have hstays : ∀ label ∈ labels, st.stay.asks? ≠ some label := stay_asks st ▸ hask
    obtain ⟨hrun, hviews, htold⟩ := ih hp.free (he.step held st.stay) (hplain.step held hstays)
      hdrops hasks
    have hleft : gone ++ (s.without gone).quitters ((held, st) :: sts) =
        gone ++ (s.without gone).quitting st ++
          ((s.step held st.stay).2.1.without
            (gone ++ (s.without gone).quitting st)).quitters sts := by
      rw [quitters, ← List.append_assoc, hp.session]
    have hstatuses : ((s.without gone).step held st).2.1.statuses =
        (s.step held st.stay).2.1.statuses := by
      rw [hp.session]
      rfl
    simp only [List.map_cons, run, Change.andThen_fst, views, toldCalls, hleft]
    refine ⟨?_, ?_, ?_⟩
    · rw [hp.session]
      exact hrun
    · rw [hp.session, hviews]
      simp only [View.others, hp.returned, hp.notes]
      rw [← hstatuses, hp.session]
    · rw [hp.session, htold, hp.told]
      refine congrArg (· :: _) (filter_filter_append fun c hc => ?_)
      exact told_not_quitters he _ held st.stay hc sts

/-- What the notes of a step tell is told to the calls that are done, and nothing else. -/
theorem step_tellings (s : Session) (held : Bool) (st : Step) :
    (s.step held st).2.2.filterMap Note.telling? =
      (s.toldAt held st).filterMap Call.telling? := by
  have htaken := (filter_silent (take_quiet s st)).2
  cases held with
  | true => exact htaken
  | false =>
    have hsettled : Quiet (settleDown (s.take st).2.1).2 :=
      (settleDown_blind (.nobody _)).quiet
    have hidle : (s.idle st).2.filterMap Note.telling? = [] := by
      simp only [idle, Change.andThen, List.filterMap_append, htaken, (filter_silent hsettled).2,
        List.append_nil]
    rw [step_unheld, toldAt_unheld]
    simp only [Change.andThen, List.filterMap_append, hidle, tell_tellings, List.nil_append]

/-- What steps show of tellings is what the calls are told. -/
theorem views_tellings (s : Session) (sts : List (Bool × Step)) :
    (s.views sts).map (fun v => v.notes.filterMap Note.telling?) =
      (s.toldCalls sts).map fun cs => cs.filterMap Call.telling? := by
  induction sts generalizing s with
  | nil => rfl
  | cons st sts ih =>
    obtain ⟨held, st⟩ := st
    simp only [views, toldCalls, List.map_cons, step_tellings, ih]

/-- Callers who leave disturb nobody. Whichever calls are dropped at whichever steps, as long as
they are none that go on once they are settled, the session comes to where it would have come had
nobody left, but for the calls of those who left, and each step returns and shows the same: what is
connected, written, closed, published, called back and logged. Each step tells the same calls the
same, but for those whose callers leave on the way. -/
theorem leaving_disturbs_nobody (sts : List (Bool × Step))
    (h : ∀ st ∈ sts, ∀ other ∈ sts, ∀ label, st.2.drops? = some label →
      other.2.asks? ≠ some label) :
    let stayed := sts.map fun st => (st.1, st.2.stay)
    let left := quitters {} sts
    (run {} sts).1 = (run {} stayed).1.without left ∧
    (views {} sts).map View.others = (views {} stayed).map View.others ∧
    toldCalls {} sts = (toldCalls {} stayed).map (fun cs => cs.filter fun c => c.caller ∉ left) ∧
    ∀ steps, (views {} steps).map (fun v => v.notes.filterMap Note.telling?) =
      (toldCalls {} steps).map fun cs => cs.filterMap Call.telling? := by
  intro stayed left
  have hplain : Plain (sts.filterMap (·.2.drops?)) {} := fun e he => absurd he List.not_mem_nil
  obtain ⟨hrun, hviews, htold⟩ := run_parts sts (.nobody {}) (run_enrolled []) hplain
    (fun st hst label hd => List.mem_filterMap.mpr ⟨st, hst, hd⟩) fun other hother label hl => by
      obtain ⟨st, hst, hd⟩ := List.mem_filterMap.mp hl
      exact h st hst other hother label hd
  exact ⟨hrun, hviews, htold, views_tellings {}⟩

def deserted : List (Bool × Step) :=
  [(false, .connect "c" "ws://hub/" false 1000), (true, .transport 0 .opened),
    (true, .send "c" "a" ⟨"GET", "k", ""⟩), (true, .send "c" "b" ⟨"GET", "k", ""⟩),
    (true, .abandon "a"), (false, .wait), (false, .transport 0 (.closed (.abort "gone")))]

/-- One of two callers leaves before the connection ends, and the other is told as if nobody had. -/
theorem deserted_disturbs_nobody :
    quitters {} deserted = [0] ∧
    (toldCalls {} deserted).map (fun cs => cs.map (·.caller)) = [[], [], [], [], [], [], [1]] ∧
    (views {} deserted).map View.others =
      (views {} (deserted.map fun st => (st.1, st.2.stay))).map View.others := by
  have h := leaving_disturbs_nobody deserted (by decide)
  exact ⟨by decide +kernel, by decide +kernel, h.2.1⟩

end Switchboard.Session
