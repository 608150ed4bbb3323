import Switchboard.Channel.Basic
import Switchboard.Proofs.Text.Octets

/-!
The course of a channel. `Passage` lists what a channel can pass to at one moment and what it then
reports; `Course` lists what it can have reported by the time it has come to a stage. Every passage
takes the course on, so every channel keeps to it, whatever its owner and its peer do and in
whatever order its loop turns to things.
-/

namespace Switchboard.Channel

open Link (Closing Event)

variable {c c' c'' : Channel} {m : Moment} {es fs : List Event} {scheme : String} {stage : Stage}
  {b : Bool}

def leaves (c : Channel) : Moment → Bool
  | .notice => c.closed && c.stage != .over
  | _ => false

def left (c : Channel) : List Moment → Bool
  | [] => false
  | m :: ms => c.leaves m || left (c.step m).1 ms

/-- Reports that do not end a channel: a message, and a frame that holds no text. -/
def isPassing : Event → Bool
  | .message _ => true
  | .fault (.invalidFrame _) => true
  | _ => false

inductive Ending : List Event → Prop
  | ended (closing : Closing) : Ending [.closed closing]
  | broken (reason : String) : Ending [.fault (.io reason), .closed (.abort reason)]

inductive Failing (scheme : String) : List Event → Prop
  | unsupported (h : isSupported scheme = false) :
      Failing scheme
        [.fault (.invalidUrl ("unsupported scheme: " ++ scheme)), .closed (.abort "invalid url")]
  | failed (h : isSupported scheme = true) (reason : String) :
      Failing scheme
        [.fault (.connectionFailed ("WebSocket connect failed: " ++ reason)),
          .closed (.abort reason)]

/-- What the owner is to hear of a frame. A binary frame counts as the text it holds the bytes of,
if there is one. -/
inductive Delivers : Frame → List Event → Prop
  | text (text : String) : Delivers (.text text) [.message text]
  | binary (text : String) : Delivers (.binary text.toUTF8.data.toList) [.message text]
  | garbled {bytes : List UInt8} {garble : Text.Garble}
      (h : ∀ text : String, bytes ≠ text.toUTF8.data.toList)
      (hg : Text.ofOctets bytes = .error garble) :
      Delivers (.binary bytes) [.fault (.invalidFrame garble.message)]
  | ping : Delivers .ping []
  | pong : Delivers .pong []
  | close (status : Option (Nat × String)) : Delivers (.close status) []

/-- What ends a channel that is open, and how its owner is told: a close frame with or without a
status, a stream that ends or breaks, or a text that cannot be written. -/
inductive Exit (c : Channel) : Moment → List Event → Prop
  | goodbye (code : Nat) (reason : String) :
      Exit c (.read (.frame (.close (some (code, reason))))) [.closed (.leave code reason)]
  | farewell : Exit c (.read (.frame (.close none))) [.closed (.leave Closing.noCode "")]
  | silence : Exit c (.read .ended) [.closed (.abort "stream ended without close frame")]
  | unread (reason : String) :
      Exit c (.read (.fault reason)) [.fault (.io reason), .closed (.abort reason)]
  | unwritten (waiting : c.outgoing ≠ []) (reason : String) :
      Exit c (.write (some reason)) [.fault (.io reason), .closed (.abort reason)]

/-- Whether a moment passes a channel by: it stays where it is and tells its owner nothing. -/
def isIdle (c : Channel) : Moment → Bool
  | .send _ => true
  | .close => true
  | .fail _ => c.stage != .connecting
  | .connect => c.stage != .connecting
  | .notice => !c.leaves .notice
  | .write fault => c.stage != .talking || fault.isNone || c.outgoing.isEmpty
  | .read _ => c.stage != .talking

/-- What a channel passes to at a moment, and what it reports. Only one of these fits a channel and a
moment, so together they say all that a moment does. -/
inductive Passage (c c' : Channel) : Moment → List Event → Prop
  | idle {m : Moment} (h : c.isIdle m = true) (stays : c'.stage = c.stage) : Passage c c' m []
  | failed (connecting : c.stage = .connecting) (done : c'.stage = .over) (reason : String) :
      Passage c c' (.fail reason)
        [.fault (.connectionFailed ("WebSocket connect failed: " ++ reason)),
          .closed (.abort reason)]
  | connected (connecting : c.stage = .connecting) (talking : c'.stage = .talking) :
      Passage c c' .connect [.opened]
  | delivered {f : Frame} {es : List Event} (talking : c.stage = .talking) (same : c' = c)
      (goes : ∀ status, f ≠ .close status) (h : Delivers f es) : Passage c c' (.read (.frame f)) es
  | ended {m : Moment} {es : List Event} (talking : c.stage = .talking) (done : c'.stage = .over)
      (h : Exit c m es) : Passage c c' m es
  | left (h : c.leaves .notice = true) (done : c'.stage = .over) : Passage c c' .notice []

@[simp] theorem reports_append (xs ys : List Mark) :
    reports (xs ++ ys) = reports xs ++ reports ys :=
  List.filterMap_append ..

theorem Delivers.passing {f : Frame} (h : Delivers f es) : ∀ e ∈ es, isPassing e := by
  intro e he
  cases h with
  | text | binary | garbled =>
    obtain rfl := List.mem_singleton.mp he
    rfl
  | ping | pong | close => cases he

/-- A frame leaves no choice of what is heard of it: its bytes are those of one text at most. -/
theorem Delivers.unique {f : Frame} (h : Delivers f es) (h' : Delivers f fs) : es = fs := by
  generalize hf : f = f' at h'
  cases h with
  | text | ping | pong | close =>
    cases h' <;> cases hf
    rfl
  | binary text =>
    cases h' with
    | binary text' =>
      have hbytes : text.toUTF8 = text'.toUTF8 :=
        ByteArray.ext (Array.toList_inj.mp (Frame.binary.inj hf))
      rw [String.toByteArray_inj.mp hbytes]
    | garbled hnone => exact absurd (Frame.binary.inj hf).symm (hnone text)
    | text | ping | pong | close => cases hf
  | garbled hnone hgarble =>
    cases h' with
    | binary text => exact absurd (Frame.binary.inj hf) (hnone text)
    | garbled _ hgarble' =>
      rw [Frame.binary.inj hf, hgarble'] at hgarble
      cases hgarble
      rfl
    | text | ping | pong | close => cases hf

theorem Exit.unique (h : Exit c m es) (h' : Exit c m fs) : es = fs := by
  cases h <;> cases h' <;> rfl

theorem Exit.ending (h : Exit c m es) : Ending es := by
  cases h with
  | goodbye | farewell | silence => exact .ended _
  | unread reason | unwritten _ reason => exact .broken reason

theorem Exit.stays (h : Exit c m es) : c.leaves m = false := by
  cases h with
  | goodbye | farewell | silence | unread | unwritten => rfl

/-- What ends an open channel does not pass it by. -/
theorem Exit.not_isIdle (h : Exit c m es) (talking : c.stage = .talking) : c.isIdle m = false := by
  cases h with
  | goodbye | farewell | silence | unread => simp [isIdle, talking]
  | unwritten waiting => simp [isIdle, talking, waiting]

theorem leaves_of_isIdle (h : c.isIdle m = true) : c.leaves m = false := by
  cases m with
  | notice => exact (Bool.not_eq_true' _).mp h
  | send | close | fail | connect | write | read => rfl

theorem going_of_leaves (h : c.leaves m = true) : c.stage ≠ .over := by
  intro hover
  cases m with
  | notice => simp [leaves, hover] at h
  | send | close | fail | connect | write | read => cases h

/-- A moment takes a channel to one stage only and adds the same reports, whichever passage it is
seen as. -/
theorem Passage.unique (h : Passage c c' m es) (h' : Passage c c'' m fs) :
    c'.stage = c''.stage ∧ es = fs := by
  cases h with
  | idle hidle stays =>
    cases h' with
    | idle _ stays' => exact ⟨stays.trans stays'.symm, rfl⟩
    | failed going | connected going | delivered going => simp [isIdle, going] at hidle
    | ended talking _ hexit => cases hidle.symm.trans (hexit.not_isIdle talking)
    | left hleaves => cases (leaves_of_isIdle hidle).symm.trans hleaves
  | failed connecting done reason =>
    cases h' with
    | idle hidle => simp [isIdle, connecting] at hidle
    | failed _ done' => exact ⟨done.trans done'.symm, rfl⟩
    | ended _ _ hexit => cases hexit
  | connected connecting talking =>
    cases h' with
    | idle hidle => simp [isIdle, connecting] at hidle
    | connected _ talking' => exact ⟨talking.trans talking'.symm, rfl⟩
    | ended _ _ hexit => cases hexit
  | delivered talking same goes hdelivers =>
    cases h' with
    | idle hidle => simp [isIdle, talking] at hidle
    | delivered _ same' _ hdelivers' =>
      exact ⟨by rw [same, same'], hdelivers.unique hdelivers'⟩
    | ended _ _ hexit =>
      cases hexit with
      | goodbye | farewell => exact absurd rfl (goes _)
  | ended talking done hexit =>
    cases h' with
    | idle hidle => cases hidle.symm.trans (hexit.not_isIdle talking)
    | failed | connected => cases hexit
    | delivered _ _ goes =>
      cases hexit with
      | goodbye | farewell => exact absurd rfl (goes _)
    | ended _ done' hexit' => exact ⟨done.trans done'.symm, hexit.unique hexit'⟩
    | left hleaves => cases hexit.stays.symm.trans hleaves
  | left hleaves done =>
    cases h' with
    | idle hidle => cases (leaves_of_isIdle hidle).symm.trans hleaves
    | ended _ _ hexit => cases hexit
    | left _ done' => exact ⟨done.trans done'.symm, rfl⟩

theorem onSend_passage (c : Channel) (text : String) :
    Passage c (c.onSend text).1 (.send text) (reports (c.onSend text).2) := by
  unfold onSend
  split <;> exact .idle rfl rfl

/-- A notice ends a closed channel without a word to its owner. -/
theorem onNotice_passage (h : c.stage ≠ .over) :
    Passage c c.onNotice.1 .notice (reports c.onNotice.2) := by
  unfold onNotice
  cases hc : c.closed with
  | false => exact .idle (by simp [isIdle, leaves, hc]) rfl
  | true =>
    have hleaves : c.leaves .notice = true := by simp [leaves, hc, h]
    simp only [↓reduceIte]
    split <;> exact .left hleaves rfl

/-- Writing is heard of only where there is something to write and it fails. -/
theorem onWrite_passage (h : c.stage = .talking) (fault : Option String) :
    Passage c (c.onWrite fault).1 (.write fault) (reports (c.onWrite fault).2) := by
  unfold onWrite
  split
  · next hnone => exact .idle (by simp [isIdle, hnone]) rfl
  · next text rest hsome =>
    cases fault with
    | none => exact .idle (by simp [isIdle]) rfl
    | some reason => exact .ended h rfl (.unwritten (by simp [hsome]) reason)

/-- A frame other than a close frame is handed on and leaves the channel as it was. -/
theorem readFrame_delivers (c : Channel) {f : Frame} (h : ∀ status, f ≠ .close status) :
    (c.readFrame f).1 = c ∧ Delivers f (reports (c.readFrame f).2) := by
  cases f with
  | text text => exact ⟨rfl, .text text⟩
  | binary bytes =>
    simp only [readFrame]
    split
    · next cs hcs =>
      obtain rfl := Text.ofOctets_eq_ok_iff.mp hcs
      have hbinary := Delivers.binary (String.ofList cs)
      rw [← Text.octets_toList, String.toList_ofList] at hbinary
      exact ⟨rfl, hbinary⟩
    · next garble hgarble =>
      refine ⟨rfl, .garbled (fun text he => ?_) hgarble⟩
      rw [← Text.octets_toList] at he
      rw [Text.ofOctets_eq_ok_iff.mpr he] at hgarble
      contradiction
  | ping => exact ⟨rfl, .ping⟩
  | pong => exact ⟨rfl, .pong⟩
  | close status => exact absurd rfl (h status)

theorem readFrame_passage (h : c.stage = .talking) (f : Frame) :
    Passage c (c.readFrame f).1 (.read (.frame f)) (reports (c.readFrame f).2) := by
  by_cases hclose : ∃ status, f = .close status
  · obtain ⟨status, rfl⟩ := hclose
    cases status with
    | none => exact .ended h rfl .farewell
    | some status => exact .ended h rfl (.goodbye status.1 status.2)
  · have hgoes : ∀ status, f ≠ .close status := fun status he => hclose ⟨status, he⟩
    obtain ⟨hsame, hdelivers⟩ := c.readFrame_delivers hgoes
    exact .delivered h hsame hgoes hdelivers

theorem onReading_passage (h : c.stage = .talking) (reading : Reading) :
    Passage c (c.onReading reading).1 (.read reading) (reports (c.onReading reading).2) := by
  cases reading with
  | frame f => exact readFrame_passage h f
  | fault reason => exact .ended h rfl (.unread reason)
  | ended => exact .ended h rfl .silence

/-- Every step is a passage. -/
theorem step_passage (c : Channel) (m : Moment) :
    Passage c (c.step m).1 m (reports (c.step m).2) := by
  -- A moment is met in one stage only, and passes by in the others.
  match m, h : c.stage with
  | .send text, _ => exact onSend_passage c text
  | .close, _ => exact .idle rfl rfl
  | .fail reason, .connecting => simpa only [step, h] using .failed h rfl reason
  | .connect, .connecting => simpa only [step, h] using .connected h rfl
  | .notice, .connecting => simpa only [step, h] using onNotice_passage (by simp [h])
  | .notice, .talking => simpa only [step, h] using onNotice_passage (by simp [h])
  | .write fault, .talking => simpa only [step, h] using onWrite_passage h fault
  | .read reading, .talking => simpa only [step, h] using onReading_passage h reading
  | .fail _, .talking | .fail _, .over | .connect, .talking | .connect, .over | .notice, .over
  | .write _, .connecting | .write _, .over | .read _, .connecting | .read _, .over =>
    simpa only [step, h] using .idle (by simp [isIdle, leaves, h]) rfl

/-- What a channel has reported when it has come to a stage, and whether its loop has turned to its
owner's having closed it. -/
inductive Course (scheme : String) : Stage → Bool → List Event → Prop
  | connecting (supported : isSupported scheme = true) : Course scheme .connecting false []
  | failing {es : List Event} (h : Failing scheme es) : Course scheme .over false es
  | talking {told : List Event} (h : ∀ e ∈ told, isPassing e) :
      Course scheme .talking false (.opened :: told)
  | ended {told ending : List Event} (h : ∀ e ∈ told, isPassing e) (he : Ending ending) :
      Course scheme .over false (.opened :: told ++ ending)
  | cancelled : Course scheme .over true []
  | left {told : List Event} (h : ∀ e ∈ told, isPassing e) :
      Course scheme .over true (.opened :: told)

/-- A channel that is over stays so, reports nothing and does not leave again. -/
theorem Passage.over (h : Passage c c' m fs) (hc : c.stage = .over) :
    c'.stage = .over ∧ fs = [] ∧ c.leaves m = false := by
  cases h with
  | idle h stays => exact ⟨stays.trans hc, rfl, leaves_of_isIdle h⟩
  | failed ht | connected ht | delivered ht | ended ht => cases ht.symm.trans hc
  | left h => exact absurd hc (going_of_leaves h)

/-- Every passage takes the course on. -/
theorem Passage.course (h : Passage c c' m fs) (hc : Course scheme c.stage b es) :
    Course scheme c'.stage (b || c.leaves m) (es ++ fs) := by
  cases h with
  | idle h stays =>
    rw [leaves_of_isIdle h, stays, Bool.or_false, List.append_nil]
    exact hc
  | failed connecting done reason =>
    have stays : c.leaves (.fail reason) = false := rfl
    rw [connecting] at hc
    rw [stays, done, Bool.or_false]
    cases hc with
    | connecting supported => exact .failing (.failed supported reason)
  | connected connecting talking =>
    have stays : c.leaves .connect = false := rfl
    rw [connecting] at hc
    rw [stays, talking, Bool.or_false]
    cases hc with
    | connecting supported => exact .talking (List.forall_mem_nil _)
  | @delivered f fs talking same goes h =>
    have stays : c.leaves (.read (.frame f)) = false := rfl
    rw [talking] at hc
    rw [stays, same, talking, Bool.or_false]
    cases hc with
    | talking htold => exact .talking (List.forall_mem_append.mpr ⟨htold, h.passing⟩)
  | ended talking done h =>
    rw [talking] at hc
    rw [h.stays, done, Bool.or_false]
    cases hc with
    | talking htold => exact .ended htold h.ending
  | left h done =>
    have going := going_of_leaves h
    rw [h, done, Bool.or_true, List.append_nil]
    generalize c.stage = stage at hc going
    -- Whether a goodbye is written does not show in the reports, only whether the channel was open.
    cases hc with
    | connecting => exact .cancelled
    | talking htold => exact .left htold
    | failing | ended | cancelled | left => exact absurd rfl going

theorem run_append (c : Channel) (ms ms' : List Moment) :
    c.run (ms ++ ms') = (((c.run ms).1.run ms').1, (c.run ms).2 ++ ((c.run ms).1.run ms').2) := by
  induction ms generalizing c with
  | nil => rfl
  | cons m ms ih => simp only [List.cons_append, run, ih, List.append_assoc]

/-- A channel that is over stays so and reports nothing more. -/
theorem run_over (hc : c.stage = .over) (ms : List Moment) :
    (c.run ms).1.stage = .over ∧ reports (c.run ms).2 = [] := by
  induction ms generalizing c with
  | nil => exact ⟨hc, rfl⟩
  | cons m ms ih =>
    obtain ⟨hover, hsilent, -⟩ := (c.step_passage m).over hc
    obtain ⟨hover', hsilent'⟩ := ih hover
    refine ⟨hover', ?_⟩
    rw [run, reports_append, hsilent, hsilent']
    rfl

/-- A run keeps to the course, passage by passage. -/
theorem run_course (ms : List Moment) (hc : Course scheme c.stage b es) :
    Course scheme (c.run ms).1.stage (b || c.left ms) (es ++ reports (c.run ms).2) := by
  induction ms generalizing c b es with
  | nil => simpa [run, left, reports] using hc
  | cons m ms ih =>
    have hr := ih ((c.step_passage m).course hc)
    rwa [Bool.or_assoc, List.append_assoc, ← reports_append] at hr

/-- A channel starts out connecting, or has failed already. -/
theorem start_course (scheme : String) :
    Course scheme (start scheme).1.stage false (reports (start scheme).2) := by
  unfold start
  cases h : isSupported scheme with
  | true => exact .connecting h
  | false => exact .failing (.unsupported h)

/-- The course of a channel to an address of a scheme. -/
theorem history_course (scheme : String) (ms : List Moment) :
    Course scheme ((start scheme).1.run ms).1.stage ((start scheme).1.left ms)
      (reports (history scheme ms)) := by
  have hr := run_course ms (start_course scheme)
  rwa [Bool.false_or, ← reports_append] at hr

/-- A channel that is over has reported all it ever will. -/
theorem history_over {pre : List Moment} (hover : ((start scheme).1.run pre).1.stage = .over)
    (post : List Moment) :
    ((start scheme).1.run (pre ++ post)).1.stage = .over ∧
    reports (history scheme (pre ++ post)) = reports (history scheme pre) := by
  obtain ⟨hstage, hsilent⟩ := run_over hover post
  simp only [history, run_append, reports_append, hsilent, List.append_nil]
  exact ⟨hstage, trivial⟩

end Switchboard.Channel
