import Switchboard.Proofs.Link.Told
import Switchboard.Proofs.Message.Unread

namespace Switchboard.Link

open Message (readFrame LoneScalar Response)
open Text (AllBlank)

def Effect.warning? : Effect → Option LogLine
  | .log line => if line.level = .warn then some line else none
  | _ => none

def warnings (es : List Effect) : List LogLine := es.filterMap Effect.warning?

/-- The warning an entry of a frame is worth. -/
def entryWarning? : Entry → Option LogLine
  | .ok _ => none
  | .error e => some ⟨.warn, "failed to decode reply: " ++ e.message, []⟩

@[simp] theorem warnings_append (es fs : List Effect) :
    warnings (es ++ fs) = warnings es ++ warnings fs :=
  List.filterMap_append ..

@[simp] theorem warnings_verbosely (l : Link) (message : String)
    (fields : List (String × String)) : warnings (l.verbosely message fields) = [] := by
  unfold verbosely
  split <;> rfl

theorem warnings_settled (settled : List Settlement) : warnings (settled.map .settle) = [] :=
  filterMap_map_none _ _ (fun _ => rfl) settled

/-- An entry of a frame leaves something behind, and a warning if it could not be read. -/
theorem settleEntry_marks (p : Pending) (e : Entry) :
    (settleEntry p e).2 ≠ [] ∧ warnings (settleEntry p e).2 = (entryWarning? e).toList := by
  cases e with
  | ok r =>
    simp only [settleEntry]
    generalize p.settle r.id _ = s
    obtain ⟨q, _ | ⟨t, ts⟩⟩ := s
    · exact ⟨List.cons_ne_nil _ _, rfl⟩
    · exact ⟨List.cons_ne_nil _ _, warnings_settled (t :: ts)⟩
  | error u =>
    simp only [settleEntry]
    cases u.id? with
    | none => exact ⟨List.cons_ne_nil _ _, rfl⟩
    | some id =>
      refine ⟨List.cons_ne_nil _ _, ?_⟩
      exact congrArg (List.cons _) (warnings_settled _)

theorem settleEntries_eq_nil_iff (p : Pending) (es : List Entry) :
    (settleEntries p es).2 = [] ↔ es = [] := by
  cases es with
  | nil => exact ⟨fun _ => rfl, fun _ => rfl⟩
  | cons e es =>
    constructor
    · intro h
      exact absurd (List.append_eq_nil_iff.mp h).1 (settleEntry_marks p e).1
    · intro h
      contradiction

/-- There is a warning for each entry that could not be read, in their order. -/
theorem warnings_settleEntries (p : Pending) (es : List Entry) :
    warnings (settleEntries p es).2 = es.filterMap entryWarning? := by
  induction es generalizing p with
  | nil => rfl
  | cons e es ih =>
    have hfirst := (settleEntry_marks p e).2
    have hothers := ih (settleEntry p e).1
    simp only [settleEntries, warnings_append, hfirst, hothers]
    cases h : entryWarning? e <;> simp [h]

/-- A link does nothing about a frame of its connection but show it if it is verbose, exactly if
nothing is read off the frame. This is so if the frame is blank, and if it is a number or a word
before blanks that do not end it: the value is lost, though by itself the text is refused. For every
entry that could not be read there is a warning. -/
theorem frame_unnoticed_iff (l : Link) (now : Nat) (text : String) :
    let entries := readFrame text
    let effects := (l.handle now (.transport l.epoch (.message text))).2
    (entries = [] ↔ AllBlank text.toList ∨ LoneScalar text.toList) ∧
    (effects = l.verbosely ("got data: " ++ text) [] ↔
      AllBlank text.toList ∨ LoneScalar text.toList) ∧
    warnings effects = entries.filterMap entryWarning? ∧
    (LoneScalar text.toList → ¬ AllBlank text.toList ∧
      ∃ why, Response.read text = .error (.invalidEnvelope why)) := by
  intro entries effects
  have hnone : entries = [] ↔ AllBlank text.toList ∨ LoneScalar text.toList :=
    Message.readFrameChars_eq_nil_iff
  have heffects : effects =
      l.verbosely ("got data: " ++ text) [] ++ (settleEntries l.pending entries).2 := by
    simp only [effects, handle, if_pos, onEvent, onMessage, entries]
  refine ⟨hnone, ?_, ?_, fun hlone => ⟨hlone.not_allBlank, hlone.refused⟩⟩
  · rw [heffects, List.append_right_eq_self, settleEntries_eq_nil_iff, hnone]
  · rw [heffects, warnings_append, warnings_verbosely, warnings_settleEntries, List.nil_append]

/-- A number is lost before a blank that does not end it. -/
theorem stray_number_unnoticed :
    LoneScalar " 12\u0085\n".toList ∧ readFrame " 12\u0085\n" = [] ∧
      ∃ why, Response.read " 12\u0085\n" = .error (.invalidEnvelope why) := by
  have hblank : AllBlank ['\u0085', '\n'] := by
    intro c hc
    simp only [List.mem_cons, List.not_mem_nil, or_false] at hc
    rcases hc with rfl | rfl <;> decide
  have hlone : LoneScalar " 12\u0085\n".toList :=
    @LoneScalar.intro [' ', '1', '2'] ['\n'] '\u0085' (.number (Json.wholeNumber false 12)) rfl rfl
      (by decide) hblank
  obtain ⟨hread, -, -, hrefused⟩ :=
    frame_unnoticed_iff (start { url := "ws://localhost:8372/ctl" }).1 0 " 12\u0085\n"
  exact ⟨hlone, hread.mpr (.inr hlone), (hrefused hlone).2⟩

/-- A word is lost before a blank that does not end it, and no entry tells of it. -/
theorem stray_word_unnoticed :
    readFrame "null\u00a0" = [] ∧ ¬ AllBlank "null\u00a0".toList ∧
      Response.read "null\u00a0" =
        .error (.invalidEnvelope ⟨.wrongType .null (.record "InboundEnvelope"), some ⟨1, 4⟩⟩) := by
  have hblank : AllBlank ['\u00a0'] := List.forall_mem_singleton.mpr (by decide)
  have hlone : LoneScalar "null\u00a0".toList :=
    @LoneScalar.intro ['n', 'u', 'l', 'l'] [] '\u00a0' .null rfl rfl (by decide) hblank
  exact ⟨hlone.readFrameChars, hlone.not_allBlank, rfl⟩

end Switchboard.Link
