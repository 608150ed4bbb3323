import Mathlib.Data.List.Forall2
import Switchboard.Channel.Exchange
import Switchboard.Proofs.Channel.Course
import Switchboard.Proofs.Text.Octets

namespace Switchboard.Channel

open Link (Event)

variable {c c' : Channel} {m : Moment} {marks shown : List Mark} {es : List Event} {scheme : String}
  {stage : Stage} {b : Bool}

def taken (marks : List Mark) : List String :=
  marks.filterMap fun
    | .took text => some text
    | _ => none

def written (marks : List Mark) : List String :=
  marks.filterMap fun
    | .wrote text => some text
    | _ => none

/-- The texts that are to be written after a moment. They are taken until the channel is closed or
over, and the oldest is written or lost when the loop of an open channel turns to it. -/
def queue (c : Channel) : Moment → List String
  | .send text => if c.closed || c.stage == .over then c.outgoing else c.outgoing ++ [text]
  | .write _ => if c.stage == .talking then c.outgoing.tail else c.outgoing
  | _ => c.outgoing

def isOutward : Mark → Bool
  | .wrote _ => true
  | .wroteClose => true
  | _ => false

def isAside : Mark → Bool
  | .report _ => true
  | .refused _ => true
  | _ => false

theorem taken_append (xs ys : List Mark) : taken (xs ++ ys) = taken xs ++ taken ys :=
  List.filterMap_append ..

theorem written_append (xs ys : List Mark) : written (xs ++ ys) = written xs ++ written ys :=
  List.filterMap_append ..

theorem aside_nothing (h : ∀ k ∈ marks, isAside k) :
    taken marks = [] ∧ written marks = [] ∧ marks.filter isOutward = [] := by
  refine ⟨List.filterMap_eq_nil_iff.mpr ?_, List.filterMap_eq_nil_iff.mpr ?_,
    List.filter_eq_nil_iff.mpr ?_⟩ <;>
  · intro k hk
    have := h k hk
    cases k <;> simp_all [isAside, isOutward]

/-- What a channel does to its texts at a moment, and what it shows of that. -/
inductive Handling (c c' : Channel) (m : Moment) : List Mark → Prop
  | aside {marks : List Mark} (same : c'.outgoing = c.outgoing) (h : ∀ k ∈ marks, isAside k)
      (ended : c.stage = .over → c'.stage = .over)
      (early : c.leaves m = true → c.stage = .connecting) : Handling c c' m marks
  | took (text : String) (more : c'.outgoing = c.outgoing ++ [text]) (going : c.stage ≠ .over)
      (stays : c.leaves m = false) : Handling c c' m [.took text]
  | wrote (text : String) (next : c.outgoing = text :: c'.outgoing) (going : c.stage ≠ .over)
      (stays : c.leaves m = false) : Handling c c' m [.wrote text]
  | lost (text : String) {marks : List Mark} (next : c.outgoing = text :: c'.outgoing)
      (h : ∀ k ∈ marks, isAside k) (going : c.stage ≠ .over) (done : c'.stage = .over)
      (stays : c.leaves m = false) : Handling c c' m marks
  | farewell (same : c'.outgoing = c.outgoing) (leaves : c.leaves m = true)
      (talking : c.stage = .talking) (done : c'.stage = .over) : Handling c c' m [.wroteClose]

/-- A text is put behind the others or refused. -/
theorem onSend_handling (c : Channel) (text : String) :
    Handling c (c.onSend text).1 (.send text) (c.onSend text).2 := by
  unfold onSend
  split
  · exact .aside rfl (by simp [isAside]) id (by simp [leaves])
  · next h =>
    simp only [Bool.or_eq_true, decide_eq_true_eq, not_or] at h
    exact .took text rfl h.2 rfl

/-- Only a notice writes a goodbye, and only to a peer that has been met. -/
theorem onNotice_handling (h : c.stage ≠ .over) :
    Handling c c.onNotice.1 .notice c.onNotice.2 := by
  unfold onNotice
  cases hc : c.closed with
  | false => exact .aside rfl (List.forall_mem_nil _) id (by simp [leaves, hc])
  | true =>
    have hleaves : c.leaves .notice = true := by simp [leaves, hc, h]
    simp only [↓reduceIte]
    split
    · next ht => exact .farewell rfl hleaves ht rfl
    · next ht =>
      refine .aside rfl (List.forall_mem_nil _) (fun _ => rfl) fun _ => ?_
      cases hs : c.stage <;> simp_all

/-- The oldest text is written, or lost with the connection. -/
theorem onWrite_handling (h : c.stage = .talking) (fault : Option String) :
    Handling c (c.onWrite fault).1 (.write fault) (c.onWrite fault).2 := by
  have going : c.stage ≠ .over := by simp [h]
  unfold onWrite
  split
  · exact .aside rfl (List.forall_mem_nil _) id (by simp [leaves])
  · next text rest ho =>
    cases fault with
    | none => exact .wrote text ho going rfl
    | some reason =>
      exact .lost text ho (by simp [breakDown, finish, isAside]) going rfl rfl

theorem onReading_handling (h : c.stage = .talking) (reading : Reading) :
    Handling c (c.onReading reading).1 (.read reading) (c.onReading reading).2 := by
  have going : c.stage ≠ .over := by simp [h]
  have haside : (c.onReading reading).1.outgoing = c.outgoing ∧
      ∀ k ∈ (c.onReading reading).2, isAside k := by
    cases reading with
    | frame f =>
      cases f with
      | binary bytes =>
        simp only [onReading, readFrame]
        split <;> simp [isAside]
      | _ => simp [onReading, readFrame, finish, isAside]
    | _ => simp [onReading, breakDown, finish, isAside]
  exact .aside haside.1 haside.2 (fun hover => absurd hover going) (by simp [leaves])

/-- Every step is a handling. -/
theorem step_handling (c : Channel) (m : Moment) : Handling c (c.step m).1 m (c.step m).2 := by
  match m, h : c.stage with
  | .send text, _ => exact onSend_handling c text
  | .close, _ => exact .aside rfl (List.forall_mem_nil _) id (by simp [leaves])
  | .fail _, .connecting =>
    simpa only [step, h] using
      .aside rfl (by simp [breakDown, finish, isAside]) (fun _ => rfl) (by simp [leaves])
  | .connect, .connecting =>
    simpa only [step, h] using .aside rfl (by simp [isAside]) (by simp [h]) (by simp [leaves])
  | .notice, .connecting => simpa only [step, h] using onNotice_handling (by simp [h])
  | .notice, .talking => simpa only [step, h] using onNotice_handling (by simp [h])
  | .write fault, .talking => simpa only [step, h] using onWrite_handling h fault
  | .read reading, .talking => simpa only [step, h] using onReading_handling h reading
  | .fail _, .talking | .fail _, .over | .connect, .talking | .connect, .over | .notice, .over
  | .write _, .connecting | .write _, .over | .read _, .connecting | .read _, .over =>
    simpa only [step, h] using .aside rfl (List.forall_mem_nil _) id (by simp [leaves, h])

/-- What the peer receives behind the texts: a goodbye if the loop has left an open channel. -/
inductive Farewell (left : Bool) (es : List Event) : List Mark → Prop
  | said (hleft : left = true) (opened : .opened ∈ es) : Farewell left es [.wroteClose]
  | unsaid (h : left = true → .opened ∉ es) : Farewell left es []

theorem Farewell.stays {bye : List Mark} (h : Farewell false es bye) : bye = [] := by
  cases h with
  | said hleft => contradiction
  | unsaid => rfl

/-- What a channel has carried so far. Of the texts it took it has written the first ones and has
yet to write the last ones, and any between are lost, which ends the channel. -/
structure Carried (c : Channel) (left : Bool) (shown : List Mark) : Prop where
  queued : ∃ lost, taken shown = written shown ++ (lost ++ c.outgoing) ∧
    (lost = [] ∨ c.stage = .over)
  outward : ∃ bye, shown.filter isOutward = (written shown).map .wrote ++ bye ∧
    Farewell left (reports shown) bye

theorem Course.opened_mem (h : Course scheme .talking b es) : .opened ∈ es := by
  cases h with
  | talking => exact .head _

theorem Course.unopened (h : Course scheme .connecting b es) : es = [] := by
  cases h with
  | connecting => rfl

theorem Passage.of_leaves (h : Passage c c' m es) (hl : c.leaves m = true) : es = [] := by
  cases h with
  | idle | left => rfl
  | failed | connected | delivered => cases hl
  | ended _ _ h => cases h.stays.symm.trans hl

/-- A loop that has left is over. -/
theorem Course.stays (h : Course scheme stage b es) (hs : stage ≠ .over) : b = false := by
  rw [Bool.eq_false_iff]
  intro hb
  subst hb
  cases h <;> exact hs rfl

/-- What was taken is what was written, what was lost and what is yet to be written, in this order.
-/
theorem Handling.queued (h : Handling c c' m marks)
    (hq : ∃ lost, taken shown = written shown ++ (lost ++ c.outgoing) ∧
      (lost = [] ∨ c.stage = .over)) :
    ∃ lost, taken (shown ++ marks) = written (shown ++ marks) ++ (lost ++ c'.outgoing) ∧
      (lost = [] ∨ c'.stage = .over) := by
  obtain ⟨lost, hq, hlost⟩ := hq
  rw [taken_append, written_append, hq]
  cases h with
  | aside same haside ended =>
    obtain ⟨ht, hw, -⟩ := aside_nothing haside
    exact ⟨lost, by rw [ht, hw, same, List.append_nil, List.append_nil], hlost.imp_right ended⟩
  | took text more going =>
    refine ⟨lost, ?_, .inl (hlost.resolve_right going)⟩
    simp [taken, written, more]
  | wrote text next going =>
    refine ⟨[], ?_, .inl rfl⟩
    simp [taken, written, next, hlost.resolve_right going]
  | lost text next haside going done =>
    obtain ⟨ht, hw, -⟩ := aside_nothing haside
    refine ⟨[text], ?_, .inr done⟩
    simp [ht, hw, next, hlost.resolve_right going]
  | farewell same _ talking =>
    refine ⟨lost, by simp [taken, written, same], .inl (hlost.resolve_right ?_)⟩
    simp [talking]

/-- Nothing is written behind a goodbye, and a goodbye comes only from a loop that leaves. -/
theorem Handling.outward (h : Handling c c' m marks) (hp : Passage c c' m (reports marks))
    (hc : Course scheme c.stage b (reports shown))
    (ho : ∃ bye, shown.filter isOutward = (written shown).map .wrote ++ bye ∧
      Farewell b (reports shown) bye) :
    ∃ bye, (shown ++ marks).filter isOutward = (written (shown ++ marks)).map .wrote ++ bye ∧
      Farewell (b || c.leaves m) (reports (shown ++ marks)) bye := by
  obtain ⟨bye, ho, hbye⟩ := ho
  rw [List.filter_append, written_append, reports_append, ho]
  by_cases hover : c.stage = .over
  · obtain ⟨-, hsilent, hstays⟩ := hp.over hover
    cases h with
    | aside same haside =>
      obtain ⟨-, hw, hf⟩ := aside_nothing haside
      rw [hsilent, hw, hf, hstays, Bool.or_false, List.append_nil, List.append_nil, List.append_nil]
      exact ⟨bye, rfl, hbye⟩
    | took _ _ going | wrote _ _ going | lost _ _ _ going => exact absurd hover going
    | farewell _ _ talking => exact absurd (hover.symm.trans talking) nofun
  · -- Nothing has been said yet, so what is written now comes right behind the other texts.
    obtain rfl := hc.stays hover
    obtain rfl := hbye.stays
    rw [List.append_nil, Bool.false_or]
    cases h with
    | aside same haside _ early =>
      obtain ⟨-, hw, hf⟩ := aside_nothing haside
      refine ⟨[], by simp [hw, hf], .unsaid fun hleaves => ?_⟩
      rw [early hleaves] at hc
      rw [hc.unopened, hp.of_leaves hleaves]
      exact List.not_mem_nil
    | took text more going stays | wrote text next going stays =>
      exact ⟨[], by simp [written, isOutward], .unsaid (by simp [stays])⟩
    | lost text next haside going done stays =>
      obtain ⟨-, hw, hf⟩ := aside_nothing haside
      exact ⟨[], by simp [hw, hf], .unsaid (by simp [stays])⟩
    | farewell same leaves talking =>
      rw [talking] at hc
      exact ⟨[.wroteClose], by simp [written, isOutward],
        .said leaves (List.mem_append_left _ hc.opened_mem)⟩

/-- Every step keeps in order what has been carried. -/
theorem Carried.step (h : Carried c b shown) (hc : Course scheme c.stage b (reports shown))
    (m : Moment) : Carried (c.step m).1 (b || c.leaves m) (shown ++ (c.step m).2) where
  queued := (step_handling c m).queued h.queued
  outward := (step_handling c m).outward (step_passage c m) hc h.outward

theorem run_carried (ms : List Moment) (hc : Course scheme c.stage b (reports shown))
    (h : Carried c b shown) : Carried (c.run ms).1 (b || c.left ms) (shown ++ (c.run ms).2) := by
  induction ms generalizing c b shown with
  | nil => simpa [run, left] using h
  | cons m ms ih =>
    have hcourse := (c.step_passage m).course hc
    rw [← reports_append] at hcourse
    have hr := ih hcourse (h.step hc m)
    rwa [Bool.or_assoc, List.append_assoc] at hr

theorem start_aside (scheme : String) : ∀ k ∈ (start scheme).2, isAside k := by
  unfold start
  split <;> simp [breakDown, finish, isAside]

theorem start_fresh (scheme : String) :
    (start scheme).1.outgoing = [] ∧ (start scheme).1.closed = false := by
  unfold start
  split <;> exact ⟨rfl, rfl⟩

/-- What a channel to an address of a scheme has carried. -/
theorem history_carried (scheme : String) (ms : List Moment) :
    Carried ((start scheme).1.run ms).1 ((start scheme).1.left ms) (history scheme ms) := by
  obtain ⟨ht, hw, hf⟩ := aside_nothing (start_aside scheme)
  have hr := run_carried ms (start_course scheme)
    ⟨⟨[], by rw [ht, hw, (start_fresh scheme).1]; rfl, .inl rfl⟩,
      ⟨[], by rw [hf, hw]; rfl, .unsaid nofun⟩⟩
  rwa [Bool.false_or] at hr

theorem onSend_keeps (c : Channel) (text : String) :
    (c.onSend text).1.outgoing = c.queue (.send text) ∧ (c.onSend text).1.closed = c.closed := by
  unfold onSend queue
  simp only [beq_eq_decide]
  split <;> exact ⟨rfl, rfl⟩

theorem onNotice_keeps (c : Channel) :
    c.onNotice.1.outgoing = c.outgoing ∧ c.onNotice.1.closed = c.closed := by
  unfold onNotice
  split <;> exact ⟨rfl, rfl⟩

theorem onWrite_keeps (c : Channel) (fault : Option String) :
    (c.onWrite fault).1.outgoing = c.outgoing.tail ∧ (c.onWrite fault).1.closed = c.closed := by
  unfold onWrite
  split
  · next hnone => exact ⟨by rw [hnone, List.tail_nil], rfl⟩
  · next text rest hsome =>
    rw [hsome, List.tail_cons]
    cases fault <;> exact ⟨rfl, rfl⟩

theorem onReading_keeps (c : Channel) (reading : Reading) :
    (c.onReading reading).1.outgoing = c.outgoing ∧
    (c.onReading reading).1.closed = c.closed := by
  cases reading with
  | frame f =>
    cases f with
    | binary bytes =>
      simp only [onReading, readFrame]
      split <;> exact ⟨rfl, rfl⟩
    | text | ping | pong | close => exact ⟨rfl, rfl⟩
  | fault | ended => exact ⟨rfl, rfl⟩

/-- What is to be written changes with what is sent and written, and with nothing else. -/
theorem step_outgoing (c : Channel) (m : Moment) : (c.step m).1.outgoing = c.queue m := by
  cases m with
  | send text => exact (c.onSend_keeps text).1
  | close => rfl
  | fail | connect => cases h : c.stage <;> simp only [step, h] <;> rfl
  | notice =>
    cases h : c.stage with
    | connecting | talking => simpa only [step, queue, h] using c.onNotice_keeps.1
    | _ =>
      simp only [step, h]
      rfl
  | write fault =>
    cases h : c.stage with
    | talking => simpa [step, queue, h] using (c.onWrite_keeps fault).1
    | _ => simp [step, queue, h]
  | read reading =>
    cases h : c.stage with
    | talking => simpa only [step, queue, h] using (c.onReading_keeps reading).1
    | _ =>
      simp only [step, h]
      rfl

/-- A channel is closed by its owner and by nothing else, and stays closed. -/
theorem step_closed (c : Channel) (m : Moment) :
    (c.step m).1.closed = true ↔ c.closed = true ∨ m = .close := by
  unfold step
  split
  · simp [onSend_keeps]
  · simp
  · simp [breakDown, finish]
  · simp
  · simp [onNotice_keeps]
  · simp [onNotice_keeps]
  · simp [onWrite_keeps]
  · simp [onReading_keeps]
  · next hother _ _ _ _ _ _ => exact (or_iff_left hother).symm

theorem run_closed (c : Channel) (ms : List Moment) :
    (c.run ms).1.closed = true ↔ c.closed = true ∨ .close ∈ ms := by
  induction ms generalizing c with
  | nil => simp [run]
  | cons m ms ih =>
    rw [run, ih, step_closed, List.mem_cons, or_assoc, @eq_comm _ Moment.close m]

/-- A text sent over a closed channel is refused and changes nothing. -/
theorem onSend_of_closed (h : c.closed = true) (text : String) :
    c.onSend text = (c, [.refused text]) := by
  rw [onSend, if_pos (by simp [h])]

theorem leaves_closed (h : c.leaves m = true) : c.closed = true := by
  cases m with
  | notice => exact (Bool.and_eq_true_iff.mp h).1
  | send | close | fail | connect | write | read => cases h

/-- The loop leaves only a channel that its owner has closed. -/
theorem left_closed {ms : List Moment} (h : c.left ms = true) :
    c.closed = true ∨ .close ∈ ms := by
  induction ms generalizing c with
  | nil => cases h
  | cons m ms ih =>
    rcases Bool.or_eq_true_iff.mp h with h | h
    · exact .inl (leaves_closed h)
    · rcases ih h with hc | hm
      · exact ((step_closed c m).mp hc).imp_right fun (he : m = .close) => he ▸ .head _
      · exact .inr (.tail _ hm)

theorem history_append (scheme : String) (pre post : List Moment) :
    history scheme (pre ++ post) =
      history scheme pre ++ (((start scheme).1.run pre).1.run post).2 := by
  simp only [history, run_append, List.append_assoc]

def consumedAt (c : Channel) : Moment → List Frame
  | .read (.frame f) => if c.stage = .talking then [f] else []
  | _ => []

def consumed (c : Channel) : List Moment → List Frame
  | [] => []
  | m :: ms => c.consumedAt m ++ consumed (c.step m).1 ms

/-- At one moment the owner hears of the frame that is read. -/
theorem Passage.delivers (h : Passage c c' m es) :
    ∃ ess, List.Forall₂ Delivers (c.consumedAt m) ess ∧ ess.flatten = es.filter isPassing := by
  cases h with
  | @idle m h =>
    refine ⟨[], ?_, rfl⟩
    suffices hnone : c.consumedAt m = [] by
      rw [hnone]
      exact .nil
    cases m with
    | read reading =>
      have htalking : c.stage ≠ .talking := by simpa [isIdle] using h
      cases reading with
      | frame f => exact if_neg htalking
      | fault | ended => rfl
    | send | close | fail | connect | notice | write => rfl
  | failed | connected | left => exact ⟨[], .nil, rfl⟩
  | @delivered f es talking _ _ h =>
    rw [consumedAt, if_pos talking, List.filter_eq_self.mpr h.passing]
    exact ⟨[es], .cons h .nil, List.flatten_singleton⟩
  | ended talking _ h =>
    cases h with
    | goodbye | farewell =>
      rw [consumedAt, if_pos talking]
      exact ⟨[[]], .cons (.close _) .nil, rfl⟩
    | silence | unread | unwritten => exact ⟨[], .nil, rfl⟩

/-- The owner hears of the frames that are read, each once and in order. -/
theorem run_delivers (c : Channel) (ms : List Moment) :
    ∃ ess, List.Forall₂ Delivers (c.consumed ms) ess ∧
      ess.flatten = (reports (c.run ms).2).filter isPassing := by
  induction ms generalizing c with
  | nil => exact ⟨[], .nil, rfl⟩
  | cons m ms ih =>
    obtain ⟨first, hfirst, heq⟩ := (step_passage c m).delivers
    obtain ⟨others, hothers, heqs⟩ := ih (c.step m).1
    refine ⟨first ++ others, List.rel_append hfirst hothers, ?_⟩
    rw [List.flatten_append, heq, heqs, ← List.filter_append, ← reports_append]
    rfl

/-- What a channel carries, whatever its owner and its peer do and in whatever order its loop turns
to things. The texts it writes are the first of those it took, and the peer receives nothing else
but a goodbye behind them, once the loop has left an open channel that its owner closed. A text sent
after that closing is refused and changes nothing else. The owner hears of the frames that are read
one by one: of each text, in a text frame or in a binary one, and of each binary frame that holds
none. -/
theorem delivers_in_order (scheme : String) (ms : List Moment) :
    let first := (start scheme).1
    let shown := history scheme ms
    written shown <+: taken shown ∧
    (∃ bye, shown.filter isOutward = (written shown).map .wrote ++ bye ∧
      ((bye = [.wroteClose] ∧ first.left ms = true ∧ .opened ∈ reports shown ∧ .close ∈ ms) ∨
        (bye = [] ∧ ¬ (first.left ms = true ∧ .opened ∈ reports shown)))) ∧
    (∀ pre text post, ms = pre ++ .send text :: post → .close ∈ pre →
      (Act.send text).response ((first.run pre).1.step (.send text)).2 =
        some (.failed .connectionClosed) ∧
      ∃ rest, shown = history scheme pre ++ .refused text :: rest ∧
        history scheme (pre ++ post) = history scheme pre ++ rest) ∧
    ∃ ess, List.Forall₂ Delivers (first.consumed ms) ess ∧
      ess.flatten = (reports shown).filter isPassing := by
  intro first shown
  obtain ⟨⟨lost, hqueued, -⟩, bye, houtward, hbye⟩ := history_carried scheme ms
  refine ⟨⟨_, hqueued.symm⟩, ⟨bye, houtward, ?_⟩, ?_, ?_⟩
  · cases hbye with
    | said hleft hopened =>
      exact .inl ⟨rfl, hleft, hopened, (left_closed hleft).resolve_left (by simp [start_fresh])⟩
    | unsaid h => exact .inr ⟨rfl, fun hboth => h hboth.1 hboth.2⟩
  · rintro pre text post rfl hclose
    have hclosed := (run_closed first pre).mpr (.inr hclose)
    have hsend : (first.run pre).1.step (.send text) = ((first.run pre).1, [.refused text]) :=
      onSend_of_closed hclosed text
    refine ⟨by rw [hsend]; rfl, ((first.run pre).1.run post).2, ?_, history_append scheme pre post⟩
    change history scheme (pre ++ .send text :: post) = _
    rw [history_append, run, hsend]
    rfl
  · obtain ⟨ess, hess, heq⟩ := run_delivers first ms
    refine ⟨ess, hess, ?_⟩
    have hstart : (reports (start scheme).2).filter isPassing = [] := by
      unfold start
      split <;> rfl
    change ess.flatten = (reports ((start scheme).2 ++ (first.run ms).2)).filter isPassing
    rw [reports_append, List.filter_append, hstart, List.nil_append, heq]

example :
    history "wss" [.send "a", .connect, .send "b", .write none, .read (.frame (.binary [0x63])),
        .close, .send "d", .notice, .write none] =
      [.took "a", .report .opened, .took "b", .wrote "a", .report (.message "c"), .refused "d",
        .wroteClose] := by
  cbv

end Switchboard.Channel
