import Switchboard.Proofs.Channel.Delivery

namespace Switchboard.Channel

open Link (Closing Event)

variable {c c' : Channel} {m : Moment} {es fs : List Event} {scheme : String} {stage : Stage}
  {b : Bool}

def isOngoing : Event → Bool
  | .opened => true
  | e => isPassing e

inductive Final : List Event → Prop
  | none : Final []
  | ended (closing : Closing) : Final [.closed closing]
  | broken (fault : Link.TransportFault) (closing : Closing) : Final [.fault fault, .closed closing]

theorem Failing.final (h : Failing scheme es) : Final es := by
  cases h with
  | unsupported | failed => exact .broken _ _

theorem Ending.final (h : Ending es) : Final es := by
  cases h with
  | ended closing => exact .ended closing
  | broken reason => exact .broken _ _

/-- A report among the final ones is the end and the last of them, or a fault before it. -/
theorem Final.split {mid post : List Event} {e : Event} (h : Final (mid ++ e :: post)) :
    (∃ closing, e = .closed closing ∧ post = [] ∧ ∀ other, .closed other ∉ mid) ∨
    ∃ fault closing, e = .fault fault ∧ post = [.closed closing] := by
  generalize hes : mid ++ e :: post = es at h
  cases h with
  | none => simp at hes
  | ended closing =>
    obtain ⟨rfl, hend⟩ | ⟨-, hend⟩ := List.append_eq_singleton_iff.mp hes
    · cases hend
      exact .inl ⟨closing, rfl, rfl, fun _ => List.not_mem_nil⟩
    · cases hend
  | broken fault closing =>
    obtain ⟨rfl, hend⟩ | ⟨rest, rfl, hrest⟩ := List.append_eq_cons_iff.mp hes
    · cases hend
      exact .inr ⟨fault, closing, rfl, rfl⟩
    · obtain ⟨rfl, hend⟩ | ⟨-, hend⟩ := List.append_eq_singleton_iff.mp hrest.symm
      · cases hend
        exact .inl ⟨closing, rfl, rfl, fun _ => by simp⟩
      · cases hend

theorem isOngoing_opened {told : List Event} (h : ∀ e ∈ told, isPassing e) :
    ∀ e ∈ Event.opened :: told, isOngoing e := by
  intro e he
  rcases List.mem_cons.mp he with rfl | he
  · rfl
  · unfold isOngoing
    split
    · rfl
    · exact h e he

/-- Reports of a channel that goes on come first, and then those that end it. -/
theorem Course.split (hc : Course scheme stage b es) :
    ∃ body ending, es = body ++ ending ∧ (∀ e ∈ body, isOngoing e) ∧ Final ending := by
  cases hc with
  | connecting | cancelled => exact ⟨[], [], rfl, nofun, .none⟩
  | failing h => exact ⟨[], es, rfl, nofun, h.final⟩
  | @talking told h | @left told h =>
    exact ⟨.opened :: told, [], (List.append_nil _).symm, isOngoing_opened h, .none⟩
  | @ended told ending h he =>
    exact ⟨.opened :: told, ending, rfl, isOngoing_opened h, he.final⟩

theorem split_after {body ending pre post : List Event} {e : Event} (he : e ∉ body)
    (h : body ++ ending = pre ++ e :: post) :
    ∃ mid, pre = body ++ mid ∧ ending = mid ++ e :: post := by
  rcases List.append_eq_append_iff.mp h with ⟨mid, hpre, hending⟩ | ⟨mid, hbody, hmid⟩
  · exact ⟨mid, hpre, hending⟩
  · cases mid with
    | nil => exact ⟨[], by simpa using hbody.symm, hmid.symm⟩
    | cons x mid =>
      cases hmid
      exact absurd (hbody ▸ List.mem_append_right _ (.head _)) he

/-- The end of a channel is reported once and last. -/
theorem Course.closed_last (hc : Course scheme stage b es) {pre post : List Event}
    {closing : Closing} (h : es = pre ++ .closed closing :: post) :
    post = [] ∧ ∀ other, .closed other ∉ pre := by
  obtain ⟨body, ending, rfl, hbody, hfinal⟩ := hc.split
  have hnot : ∀ other, .closed other ∉ body := fun other hm => nomatch hbody _ hm
  obtain ⟨mid, rfl, hending⟩ := split_after (hnot closing) h
  rw [hending] at hfinal
  obtain ⟨-, -, hpost, hmid⟩ | ⟨_, _, he, -⟩ := hfinal.split
  · refine ⟨hpost, fun other hm => ?_⟩
    rcases List.mem_append.mp hm with hm | hm
    · exact hnot other hm
    · exact hmid other hm
  · cases he

/-- A fault other than a garbled frame is followed by the end. -/
theorem Course.fault_ends (hc : Course scheme stage b es) {pre post : List Event}
    {fault : Link.TransportFault} (h : es = pre ++ .fault fault :: post) :
    (∃ text, fault = .invalidFrame text) ∨ ∃ closing, post = [.closed closing] := by
  obtain ⟨body, ending, rfl, hbody, hfinal⟩ := hc.split
  by_cases hm : .fault fault ∈ body
  · have hgoing := hbody _ hm
    cases fault with
    | invalidFrame text => exact .inl ⟨text, rfl⟩
    | invalidUrl | connectionFailed | io | connectionClosed => cases hgoing
  · obtain ⟨mid, -, hending⟩ := split_after hm h
    rw [hending] at hfinal
    obtain ⟨_, he, -⟩ | ⟨_, closing, -, hpost⟩ := hfinal.split
    · cases he
    · exact .inr ⟨closing, hpost⟩

/-- A loop that has left is over, and its end is not reported. -/
theorem Course.over_of_left (hc : Course scheme stage b es) (hb : b = true) :
    stage = .over ∧ ∀ closing, .closed closing ∉ es := by
  subst hb
  cases hc with
  | cancelled => exact ⟨rfl, fun _ => List.not_mem_nil⟩
  | left h =>
    refine ⟨rfl, fun closing hm => ?_⟩
    cases isOngoing_opened h _ hm

/-- A channel that has come to an end in any other way has reported it. -/
theorem Course.closed_of_over (hc : Course scheme .over b es) (hb : b = false) :
    ∃ closing, .closed closing ∈ es := by
  subst hb
  cases hc with
  | failing h =>
    cases h with
    | unsupported | failed => exact ⟨_, .tail _ (.head _)⟩
  | ended h he =>
    cases he with
    | ended closing => exact ⟨closing, List.mem_append_right _ (.head _)⟩
    | broken reason => exact ⟨.abort reason, List.mem_append_right _ (.tail _ (.head _))⟩

/-- The end of a channel that is over goes unreported only if its owner closed it. -/
theorem Course.left_iff (hc : Course scheme .over b es) :
    b = true ↔ ∀ closing, .closed closing ∉ es := by
  refine ⟨fun hleft => (hc.over_of_left hleft).2, fun hnone => ?_⟩
  cases b with
  | true => rfl
  | false =>
    obtain ⟨closing, hm⟩ := hc.closed_of_over rfl
    exact absurd hm (hnone closing)

/-- The forms that the reports of a channel can take. -/
theorem Course.shape (hc : Course scheme stage b es) :
    (es = [] ∧ (stage = .connecting ∨ b = true)) ∨ Failing scheme es ∨
    ∃ told ending, es = .opened :: told ++ ending ∧ (∀ e ∈ told, isPassing e) ∧
      (ending = [] ∨ Ending ending) := by
  cases hc with
  | connecting => exact .inl ⟨rfl, .inl rfl⟩
  | cancelled => exact .inl ⟨rfl, .inr rfl⟩
  | failing h => exact .inr (.inl h)
  | @talking told h | @left told h =>
    exact .inr (.inr ⟨told, [], (List.append_nil _).symm, h, .inl rfl⟩)
  | @ended told ending h he => exact .inr (.inr ⟨told, ending, rfl, h, .inr he⟩)

/-- A channel to an address of no use reports that and its end, and nothing more. -/
theorem reports_unsupported (h : isSupported scheme = false) (ms : List Moment) :
    reports (history scheme ms) = [
      .fault (.invalidUrl ("unsupported scheme: " ++ scheme)), .closed (.abort "invalid url")] := by
  have hstart : start scheme =
      breakDown {} (.invalidUrl ("unsupported scheme: " ++ scheme)) "invalid url" := by
    simp [start, h]
  have hover : ((start scheme).1.run []).1.stage = .over := by
    rw [hstart]
    rfl
  have hall : reports (history scheme ms) = reports (history scheme []) := (history_over hover ms).2
  rw [hall, history, hstart]
  rfl

theorem isSupported_iff : isSupported scheme = true ↔ scheme = "ws" ∨ scheme = "wss" := by
  simp [isSupported]

/-- A channel to an address of use starts out afresh, and without a report. -/
theorem start_supported (h : isSupported scheme = true) :
    (start scheme).1 = ⟨.connecting, [], false⟩ ∧ reports (history scheme []) = [] := by
  have hstart : start scheme = ({}, []) := if_pos h
  rw [history, hstart]
  exact ⟨rfl, rfl⟩

/-- A garbled frame does not end a channel. -/
theorem Passage.garbled (h : Passage c c' m fs) {text : String}
    (hm : .fault (.invalidFrame text) ∈ fs) : c' = c := by
  cases h with
  | delivered _ same => exact same
  | idle | left => cases hm
  | failed | connected => simp at hm
  | ended _ _ h => cases h <;> simp at hm

/-- One moment more takes a channel through one passage, whose reports come behind the earlier ones.
-/
theorem history_passage (scheme : String) (ms : List Moment) (m : Moment) :
    let c := ((start scheme).1.run ms).1
    let next := ((start scheme).1.run (ms ++ [m])).1
    next.outgoing = c.queue m ∧ ∃ heard, Passage c next m heard ∧
      reports (history scheme (ms ++ [m])) = reports (history scheme ms) ++ heard := by
  intro c next
  have hnext : next = (c.step m).1 := by simp only [next, run_append, run, c]
  rw [hnext]
  refine ⟨step_outgoing c m, reports (c.step m).2, step_passage c m, ?_⟩
  simp only [c, history_append, run, reports_append, List.append_nil]

/-- While a channel is not over, the texts it has yet to write are those it took and has not
written. -/
theorem history_outgoing (scheme : String) (ms : List Moment)
    (h : ((start scheme).1.run ms).1.stage ≠ .over) :
    taken (history scheme ms) =
      written (history scheme ms) ++ ((start scheme).1.run ms).1.outgoing := by
  obtain ⟨lost, hqueued, hlost⟩ := (history_carried scheme ms).queued
  rw [hqueued, hlost.resolve_right h, List.nil_append]

/-- The reports of a channel follow one protocol, whatever its owner and its peer do and in whatever
order its loop turns to things. They are none, as long as it connects or if its owner closed it
meanwhile; or why it did not open and its end; or its opening, then messages and garbled frames,
then its end, if any. The end comes once and last, with any fault but a garbled frame right before
it. A channel is over without it only if its loop has turned to its owner's having closed it, after
which nothing is reported. Neither garbled frames nor pings and pongs end a channel.

`Passage` says which of these it comes to. A channel of use starts out connecting. From then on each
moment takes it where its stage, its owner's closing and the texts it has yet to write say, and adds
exactly the reports that belong to that: two for a failed connection, the opening for one that
succeeds, the end or a fault and the end for whatever breaks an open channel, and what a frame holds
for any other frame. The closing is the owner's and nobody else's, and the texts to write are those
that were taken and are not written. -/
theorem reports_follow_protocol (scheme : String) (ms : List Moment) :
    let first := (start scheme).1
    let c := (first.run ms).1
    let shown := history scheme ms
    let es := reports shown
    ((es = [] ∧ (c.stage = .connecting ∨ first.left ms = true)) ∨ Failing scheme es ∨
      ∃ told ending, es = .opened :: told ++ ending ∧ (∀ e ∈ told, isPassing e) ∧
        (ending = [] ∨ Ending ending)) ∧
    (isSupported scheme = true ↔ scheme = "ws" ∨ scheme = "wss") ∧
    (isSupported scheme = false → es = [
      .fault (.invalidUrl ("unsupported scheme: " ++ scheme)), .closed (.abort "invalid url")]) ∧
    (isSupported scheme = true →
      first = ⟨.connecting, [], false⟩ ∧ reports (history scheme []) = []) ∧
    (∀ m, let next := (first.run (ms ++ [m])).1
      next.outgoing = c.queue m ∧ ∃ heard, Passage c next m heard ∧
        reports (history scheme (ms ++ [m])) = es ++ heard) ∧
    (c.closed = true ↔ .close ∈ ms) ∧
    (c.stage ≠ .over → taken shown = written shown ++ c.outgoing) ∧
    (∀ pre closing post, es = pre ++ .closed closing :: post →
      post = [] ∧ ∀ other, .closed other ∉ pre) ∧
    (∀ pre fault post, es = pre ++ .fault fault :: post →
      (∃ text, fault = .invalidFrame text) ∨ ∃ closing, post = [.closed closing]) ∧
    (c.stage = .over → (first.left ms = true ↔ ∀ closing, .closed closing ∉ es)) ∧
    (∀ pre post, ms = pre ++ post → first.left pre = true →
      c.stage = .over ∧ es = reports (history scheme pre)) ∧
    (∀ c m text, .fault (.invalidFrame text) ∈ reports (step c m).2 → (step c m).1 = c) ∧
    ∀ c, step c (.read (.frame .ping)) = (c, []) ∧ step c (.read (.frame .pong)) = (c, []) := by
  intro first c shown es
  have hc : Course scheme c.stage (first.left ms) es := history_course scheme ms
  have hclosed : c.closed = true ↔ .close ∈ ms := by
    rw [run_closed, (start_fresh scheme).2]
    simp only [Bool.false_eq_true, false_or]
  refine ⟨hc.shape, isSupported_iff, fun hs => reports_unsupported hs ms, start_supported,
    history_passage scheme ms, hclosed, history_outgoing scheme ms,
    fun pre closing post => hc.closed_last, fun pre fault post => hc.fault_ends, ?_, ?_, ?_, ?_⟩
  · intro hover
    rw [hover] at hc
    exact hc.left_iff
  · rintro pre post rfl hleft
    exact history_over ((history_course scheme pre).over_of_left hleft).1 post
  · intro c m text hm
    exact (step_passage c m).garbled hm
  · intro c
    unfold step
    cases c.stage <;> exact ⟨rfl, rfl⟩

end Switchboard.Channel
