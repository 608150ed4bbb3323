import Switchboard.Proofs.Message.Response
import Switchboard.Message.Frame

namespace Switchboard.Message

open Json

variable {r : Response} {blanks frame text rest : List Char} {v : Value}

theorem skipSpace_append (hb : ∀ c ∈ blanks, isSpace c) (text : List Char) :
    skipSpace (blanks ++ text) = skipSpace text :=
  List.dropWhile_append_of_pos hb

theorem readFrameChars_blank (hb : ∀ c ∈ blanks, isSpace c) : readFrameChars blanks = [] := by
  have hs : skipSpace blanks = [] := by
    rw [← List.append_nil blanks, skipSpace_append hb]
    rfl
  rw [readFrameChars]
  split <;> simp_all

/-- Where no value can be read, what is left is read line by line. -/
theorem readFrameChars_fault {f : Fault} (hs : skipSpace frame = text) (hne : text ≠ [])
    (hv : (value maxDepth).run text = .error f) : readFrameChars frame = readLines text := by
  subst hs
  rw [readFrameChars]
  split
  · contradiction
  · split <;> simp_all

theorem readFrameChars_cons {c : Char} (hs : skipSpace frame = c :: text)
    (hv : (value maxDepth).run (c :: text) = .ok (v, rest)) :
    readFrameChars frame =
      if opensDelimited (c :: text) || endsScalar rest then
        Response.ofValue v :: readFrameChars rest
      else readLines rest := by
  rw [readFrameChars]
  split
  · simp_all
  · split <;> simp_all

/-- A value that shows its own end is cut off, whatever follows. -/
theorem readFrameChars_value {c : Char} (hs : skipSpace frame = c :: text)
    (hv : (value maxDepth).run (c :: text) = .ok (v, rest)) (hd : opensDelimited (c :: text)) :
    readFrameChars frame = Response.ofValue v :: readFrameChars rest := by
  rw [readFrameChars_cons hs hv, hd]
  rfl

theorem members_envelopeMembers (id : Id) (hid : id < 2 ^ 64) (payload : List Char) :
    members (envelopeMembers id hid payload) = (envelopeMembers id hid payload).reverse := by
  have hlt : "payload" < "request_id" := by decide
  exact if_pos hlt

/-- The text of a response is one value, whatever follows it. -/
theorem Response.value_run (h : r.Regular) (rest : List Char) :
    (value maxDepth).run (r.chars ++ rest) =
      .ok (.object (envelopeMembers r.id h.id r.payloadChars).reverse, rest) := by
  have hms := envelopeMembers_regular r.id h.id r.payloadChars
  have hreads := value_object_reads (d := 126)
    (fun m hm _ hr => value_reads (hms m hm).1 126 hr) rest
  have hdepth : Value.membersDepth (envelopeMembers r.id h.id r.payloadChars) ≤ 126 :=
    membersDepth_le.mpr fun m hm => Nat.le_of_lt_succ (hms m hm).2
  rw [if_pos hdepth, members_envelopeMembers, ← r.chars_eq h.id] at hreads
  exact hreads

theorem Response.ofValue_written (h : r.Regular) :
    Response.ofValue (.object (envelopeMembers r.id h.id r.payloadChars).reverse) =
      r.toEnvelope.response := by
  have henvelope : envelope.ofValue (.object (envelopeMembers r.id h.id r.payloadChars).reverse) =
      .ok r.toEnvelope := by
    simp [envelope, Record.ofValue, Record.collect, Record.field?, envelopeMembers,
      unsignedOf_ofNat, Except.map, Except.bind, Response.toEnvelope]
  rw [Response.ofValue, henvelope]
  simp only [Except.mapError, Except.bind]

/-- A response at the front of a frame is read on its own. -/
theorem readFrameChars_response (hb : ∀ c ∈ blanks, isSpace c) (h : r.Regular) (rest : List Char) :
    readFrameChars (blanks ++ (r.chars ++ rest)) = r.toEnvelope.response :: readFrameChars rest := by
  have hopen : ∃ cs, r.chars ++ rest = '{' :: cs := by
    rw [r.chars_eq h.id, chars_object]
    exact ⟨_, rfl⟩
  obtain ⟨cs, hcs⟩ := hopen
  have hs : skipSpace (blanks ++ (r.chars ++ rest)) = '{' :: cs := by
    rw [skipSpace_append hb, hcs]
    rfl
  have hv := r.value_run h rest
  rw [hcs] at hv
  rw [readFrameChars_value hs hv rfl, r.ofValue_written h]

theorem readFrameChars_skip (hb : ∀ c ∈ blanks, isSpace c) (text : List Char) :
    readFrameChars (blanks ++ text) = readFrameChars text := by
  rw [readFrameChars, readFrameChars.eq_def text, skipSpace_append hb]

theorem readFrame_write (h : r.Regular) : readFrame r.write = [r.toEnvelope.response] := by
  have hnone : ∀ c ∈ ([] : List Char), isSpace c := nofun
  have hstep := readFrameChars_response hnone h []
  rw [readFrameChars_blank hnone, List.nil_append, List.append_nil] at hstep
  rw [readFrame, Response.write, String.toList_ofList, hstep]

/-- A response reads back, alone and as a frame, if its result nests no deeper than the reader
allows below the payload; else both readings refuse its payload and name its id. -/
theorem response_reads_back (r : Response) (h : r.Regular) :
    (r.result.depth ≤ 126 → Response.read r.write = .ok r ∧ readFrame r.write = [.ok r]) ∧
    (126 < r.result.depth → ∃ place,
      Response.read r.write = .error (.invalidPayload r.id (.json ⟨.tooDeep, some place⟩)) ∧
      readFrame r.write = [.error (.invalidPayload r.id (.json ⟨.tooDeep, some place⟩))]) := by
  rw [Response.read_written h, readFrame_write h]
  constructor
  · intro hd
    rw [Response.envelope_response h hd]
    exact ⟨rfl, rfl⟩
  · intro hd
    obtain ⟨place, hplace⟩ := Response.envelope_tooDeep h hd
    rw [hplace]
    exact ⟨place, rfl, rfl⟩

def nested : Nat → Value
  | 0 => .null
  | n + 1 => .array [nested n]

theorem nested_regular (n : Nat) : (nested n).Regular := by
  induction n with
  | zero => exact .null
  | succ n ih => exact .array (by simpa using ih)

theorem nested_depth (n : Nat) : (nested n).depth = n := by
  induction n with
  | zero => rfl
  | succ n ih => simp [nested, Value.depth, Value.itemsDepth, ih]

def nestedResponse (n : Nat) : Response := ⟨7, true, nested n, "\x7b\"\\\n"⟩

theorem nestedResponse_regular (n : Nat) : (nestedResponse n).Regular :=
  ⟨(by decide : 7 < 2 ^ 64), nested_regular n⟩

/-- The deepest result that reads back, and one that is a list deeper. -/
theorem deepest_response_reads_back :
    (Response.read (nestedResponse 126).write = .ok (nestedResponse 126) ∧
      readFrame (nestedResponse 126).write = [.ok (nestedResponse 126)]) ∧
    ∃ place,
      Response.read (nestedResponse 127).write =
        .error (.invalidPayload 7 (.json ⟨.tooDeep, some place⟩)) ∧
      readFrame (nestedResponse 127).write =
        [.error (.invalidPayload 7 (.json ⟨.tooDeep, some place⟩))] :=
  ⟨(response_reads_back _ (nestedResponse_regular 126)).1 (Nat.le_of_eq (nested_depth 126)),
    (response_reads_back _ (nestedResponse_regular 127)).2 (Nat.le_of_eq (nested_depth 127).symm)⟩

/-- The text of responses with text before each of them and text behind the last. -/
def framed (last : String) : List (String × Response) → String
  | [] => last
  | (before, r) :: parts => before ++ r.write ++ framed last parts

def Blank (s : String) : Prop := ∀ c ∈ s.toList, c ∈ [' ', '\t', '\n', '\r']

theorem Blank.isSpace {s : String} (h : Blank s) : ∀ c ∈ s.toList, isSpace c := by
  intro c hc
  have hmem := h c hc
  simp only [List.mem_cons, List.not_mem_nil, or_false] at hmem
  rcases hmem with rfl | rfl | rfl | rfl <;> rfl

/-- A frame is cut into its responses, each of them read by itself. -/
theorem readFrame_framed {last : String} (hlast : Blank last) (parts : List (String × Response))
    (hparts : ∀ p ∈ parts, Blank p.1 ∧ p.2.Regular) :
    readFrame (framed last parts) = parts.map fun p => p.2.toEnvelope.response := by
  induction parts with
  | nil => exact readFrameChars_blank hlast.isSpace
  | cons p parts ih =>
    obtain ⟨before, r⟩ := p
    obtain ⟨hbefore, hr⟩ := hparts (before, r) (by simp)
    have htext : (framed last ((before, r) :: parts)).toList =
        before.toList ++ (r.chars ++ (framed last parts).toList) := by
      simp [framed, Response.write]
    rw [readFrame, htext, readFrameChars_response hbefore.isSpace hr, List.map_cons]
    exact congrArg (_ :: ·) (ih fun p hp => hparts p (by simp [hp]))

/-- A frame with responses on lines of their own, and other lines behind them. -/
theorem readFrame_lines (rs : List Response) (hrs : ∀ r ∈ rs, r.Regular) (others : List String) :
    readFrame ("\n".intercalate (rs.map Response.write ++ others)) =
      (rs.map fun r => r.toEnvelope.response) ++ readFrame ("\n".intercalate others) := by
  induction rs with
  | nil => rfl
  | cons r rs ih =>
    have hr : r.Regular := hrs r (by simp)
    have hrest := ih fun r hm => hrs r (by simp [hm])
    have hnone : ∀ c ∈ ([] : List Char), isSpace c := List.forall_mem_nil _
    rw [List.map_cons, List.map_cons, List.cons_append, List.cons_append, ← hrest]
    cases hl : rs.map Response.write ++ others with
    | nil =>
      rw [String.intercalate_singleton, readFrame_write hr, String.intercalate_nil]
      exact congrArg (_ :: ·) (readFrameChars_blank hnone).symm
    | cons line lines =>
      have hnewline : ∀ c ∈ ['\n'], isSpace c := by simp [isSpace]
      have htext : ("\n".intercalate (r.write :: line :: lines)).toList =
          r.chars ++ (['\n'] ++ ("\n".intercalate (line :: lines)).toList) := by
        simp [String.intercalate_cons_cons, Response.write]
      rw [readFrame, htext, ← List.nil_append (r.chars ++ _), readFrameChars_response hnone hr,
        readFrameChars_skip hnewline]
      rfl

/-- Responses that read back alone read back from one frame, in their order, whatever blanks stand
before, between and behind them. -/
theorem frame_reads_back (last : String) (hlast : Blank last) (parts : List (String × Response))
    (hparts : ∀ p ∈ parts, Blank p.1 ∧ p.2.Regular ∧ p.2.result.depth ≤ 126) :
    readFrame (framed last parts) = parts.map fun p => .ok p.2 := by
  rw [readFrame_framed hlast parts fun p hp => ⟨(hparts p hp).1, (hparts p hp).2.1⟩]
  refine List.map_congr_left fun p hp => ?_
  obtain ⟨-, hr, hd⟩ := hparts p hp
  exact Response.envelope_response hr hd

/-- A frame with responses on one line, blanks around them and a message inside a message. -/
theorem crowded_frame_reads_back :
    Blank " \n" ∧
    readFrame (framed " \n"
      [("\r\n", nestedResponse 2), ("", .failed 0 (nestedResponse 1).write),
        ("\t", nestedResponse 126)]) =
      [.ok (nestedResponse 2), .ok (.failed 0 (nestedResponse 1).write),
        .ok (nestedResponse 126)] := by
  refine ⟨by simp [Blank], frame_reads_back _ (by simp [Blank]) _ ?_⟩
  intro p hp
  simp only [List.mem_cons, List.not_mem_nil, or_false] at hp
  rcases hp with rfl | rfl | rfl
  · exact ⟨by simp [Blank], nestedResponse_regular 2, nested_depth 2 ▸ (by decide : 2 ≤ 126)⟩
  · exact ⟨by simp [Blank], ⟨by decide, .null⟩, Nat.zero_le _⟩
  · exact ⟨by simp [Blank], nestedResponse_regular 126, Nat.le_of_eq (nested_depth 126)⟩

end Switchboard.Message
