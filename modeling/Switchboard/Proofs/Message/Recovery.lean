import Switchboard.Proofs.Message.Ending

namespace Switchboard.Message

open Json
open Text (AllBlank)

variable {s text rest : List Char} {d : Nat} {v : Value} {q : Response}

def below (lines : List (List Char)) : List Char := lines.flatMap ('\n' :: ·)

theorem below_cons (line : List Char) (lines : List (List Char)) :
    below (line :: lines) = '\n' :: (line ++ below lines) := rfl

/-- The end of a frame, or more lines that stand apart from what is before them. -/
structure Beyond (s : List Char) : Prop where
  apart : Apart s
  stops : Stops s
  newline : s = [] ∨ Newline s

/-- What is read off a text with lines behind it is read off the text itself. -/
theorem Beyond.value_within (h : Beyond s) (ht : skipSpace text ≠ [])
    (hv : (value d).run (text ++ s) = .ok (v, rest)) :
    ∃ before, (value d).run text = .ok (v, before) ∧ rest = before ++ s := by
  rcases h.newline with rfl | hn
  · exact ⟨rest, by simpa using hv, by simp⟩
  · have honward := value_onward h.apart d ht
    rw [hv] at honward
    generalize (value d).run text = x at honward ⊢
    cases honward with
    | ok => exact ⟨_, rfl, rfl⟩
    | broken f y hs => exact absurd hn hs

theorem not_mem_punctuation {c : Char} (hc : Text.isBlank c ∨ c = '[' ∨ c = '{') :
    c ∉ [',', ':', ']', '}', '"'] := by
  intro hm
  simp only [List.mem_cons, List.not_mem_nil, or_false] at hm
  rcases hm with rfl | rfl | rfl | rfl | rfl <;> exact absurd hc (by decide)

theorem stops_append (hb : AllBlank text) (hs : Stops s) : Stops (text ++ s) := by
  intro c u hc
  obtain ⟨rest, ht, -⟩ | ⟨-, ht⟩ := skipSpace_append_cases hc
  · exact not_mem_punctuation (.inl (hb c (mem_of_skipSpace ht)))
  · exact hs c u ht

/-- Lines that hold responses stand apart from what is before them. -/
theorem below_beyond {lines : List (List Char × Response)} (h : ∀ l ∈ lines, Holds l.1 l.2) :
    Beyond (below (lines.map (·.1))) := by
  induction lines with
  | nil =>
    exact ⟨.of_inline rfl (by rintro ⟨p, hp⟩; contradiction), by rintro c u hc; contradiction,
      .inl rfl⟩
  | cons l lines ih =>
    have hrest := ih fun m hm => h m (by simp [hm])
    have hl := h l (by simp)
    obtain ⟨c, u, hs, hc⟩ := hl.skipSpace
    rw [List.map_cons, below_cons]
    have hskip : skipSpace ('\n' :: (l.1 ++ below (lines.map (·.1)))) =
        c :: (u ++ below (lines.map (·.1))) := skipSpace_append_cons hs
    have hstops : Stops ('\n' :: (l.1 ++ below (lines.map (·.1)))) := by
      intro b w hb
      cases hskip.symm.trans hb
      exact not_mem_punctuation hc
    refine ⟨⟨rfl, fun _ => hstops, fun _ d v rest hv => ?_⟩, hstops, .inr ⟨_, rfl⟩⟩
    have hv : (value d).run (l.1 ++ below (lines.map (·.1))) = .ok (v, rest) := by
      rw [← hv, ← value_skipSpace, ← value_skipSpace d ('\n' :: _)]
      rfl
    obtain ⟨before, hbefore, rfl⟩ := hrest.value_within (by simp [hs]) hv
    exact stops_append (hl.value_blank hbefore) hrest.stops

/-- Text from a line feed on is read on its own. -/
theorem readLines_append (hs : s = [] ∨ Newline s) (text : List Char) :
    readLines (text ++ s) = readLines text ++ readLines s := by
  have hnil : readLines [] = [] := readLines_allBlank (List.forall_mem_nil _)
  have hfeed : ∀ text behind, readLines (text ++ '\n' :: behind) =
      readLines text ++ readLines behind := by
    intro text behind
    rw [readLines, Text.lines_append_feed, List.filter_append, List.map_append]
    rfl
  rcases hs with rfl | ⟨behind, rfl⟩
  · rw [List.append_nil, hnil, List.append_nil]
  · rw [hfeed, ← List.nil_append ('\n' :: behind), hfeed, hnil, List.nil_append]

theorem opensDelimited_cons (c : Char) (text behind : List Char) :
    opensDelimited (c :: text) = opensDelimited (c :: behind) := by
  unfold opensDelimited
  split <;> simp_all

/-- Lines behind a text do not change where it ends a scalar: a line feed does, as the end of the
text does. -/
theorem endsScalar_append (hs : Newline s) (rest : List Char) :
    endsScalar (rest ++ s) = endsScalar rest := by
  obtain ⟨behind, rfl⟩ := hs
  cases rest <;> rfl

/-- A frame is read up to the lines behind it, if those stand apart. They go on in the stream if that
comes to the end of the frame, and are read line by line if not. -/
theorem readFrameChars_beyond (h : Beyond s) (hn : Newline s) (frame : List Char) :
    readFrameChars (frame ++ s) =
      readFrameChars frame ++ if ending frame = .clear then readFrameChars s else readLines s := by
  induction frame using frame_induction with
  | blank hs =>
    have hb := List.dropWhile_eq_nil_iff.mp hs
    rw [ending_blank hs, if_pos rfl, readFrameChars_skip hb, readFrameChars_blank hb,
      List.nil_append]
  | @fault frame c text f hs hv =>
    have hself : skipSpace (c :: text) ≠ [] := by
      rw [← hs, skipSpace_skipSpace, hs]
      exact List.cons_ne_nil _ _
    -- With the lines behind it the fault may be another, but no value is read here either way.
    have honward := value_onward h.apart maxDepth hself
    rw [hv] at honward
    obtain ⟨g, hg⟩ := honward.of_error hn
    rw [ending_fault hs (by simp) hv, if_neg (by decide),
      readFrameChars_fault (skipSpace_append_cons hs) (by simp) hg,
      readFrameChars_fault hs (by simp) hv]
    exact readLines_append (.inr hn) (c :: text)
  | @value frame c text v rest hs hv ih =>
    have hself : skipSpace (c :: text) ≠ [] := by
      rw [← hs, skipSpace_skipSpace, hs]
      exact List.cons_ne_nil _ _
    have honward := value_onward h.apart maxDepth hself
    rw [hv] at honward
    rw [readFrameChars_cons (skipSpace_append_cons hs) honward.of_ok, readFrameChars_cons hs hv,
      ending_cons hs hv, endsScalar_append hn, opensDelimited_cons c _ text]
    split
    · rw [ih, List.cons_append]
    · rw [readLines_append (.inr hn), if_neg (by decide)]

/-- A frame is read up to the lines behind it and on from there, if those stand apart and read the
same whether they come in the stream or after a fault. -/
theorem readFrameChars_append (h : Beyond s) (hlines : readLines s = readFrameChars s)
    (frame : List Char) :
    readFrameChars (frame ++ s) = readFrameChars frame ++ readFrameChars s := by
  rcases h.newline with rfl | hn
  · rw [List.append_nil, readFrameChars_blank (List.forall_mem_nil _), List.append_nil]
  · rw [readFrameChars_beyond h hn, hlines, ite_self]

/-- Lines that read as responses by themselves read so in a frame, also after a fault. -/
theorem readFrameChars_below {lines : List (List Char × Response)}
    (h : ∀ l ∈ lines, '\n' ∉ l.1 ∧ Response.readChars l.1 = .ok l.2) :
    readFrameChars (below (lines.map (·.1))) = lines.map (.ok ·.2) ∧
      readLines (below (lines.map (·.1))) = lines.map (.ok ·.2) := by
  induction lines with
  | nil =>
    exact ⟨readFrameChars_blank (List.forall_mem_nil _), readLines_allBlank (List.forall_mem_nil _)⟩
  | cons l lines ih =>
    obtain ⟨hframe, hlines⟩ := ih fun m hm => h m (by simp [hm])
    obtain ⟨hn, hread⟩ := h l (by simp)
    have hholds := holds_of_readChars hn hread
    have hbeyond := below_beyond fun m hm =>
      have hm := h m (List.mem_cons_of_mem l hm)
      holds_of_readChars hm.1 hm.2
    have hfeed : ∀ c ∈ ['\n'], isSpace c := by simp [isSpace]
    have hsame := hlines.trans hframe.symm
    rw [List.map_cons, below_cons, List.map_cons]
    constructor
    · rw [← List.singleton_append, readFrameChars_skip hfeed,
        readFrameChars_append hbeyond hsame, readFrameChars_line hn hread, hframe]
      rfl
    · have hfirst : readLines ('\n' :: (l.1 ++ below (lines.map (·.1)))) =
          readLines (l.1 ++ below (lines.map (·.1))) := by
        simp [readLines, Text.lines_feed]
      have hblank : ¬ AllBlank l.1 := fun hall =>
        hholds.not_allBlank fun c hc => hall c ((List.dropWhile_sublist isSpace).subset hc)
      rw [hfirst, readLines_append hbeyond.newline, readLines_single hn hblank, hread, hlines]
      rfl

theorem intercalate_toList (line : String) (lines : List String) :
    ("\n".intercalate (line :: lines)).toList = line.toList ++ below (lines.map String.toList) := by
  induction lines generalizing line with
  | nil => simp [below]
  | cons next lines ih =>
    rw [String.intercalate_cons_cons, String.toList_append, String.toList_append, ih,
      List.map_cons, below_cons]
    simp

/-- One bad line does not hide the others. Whatever stands on a line of a frame, the responses
written on the lines before it and those that read by themselves on the lines behind it are read,
and the line is read as a frame of its own. -/
theorem bad_line_hides_no_other (before : List Response) (line : String)
    (behind : List (String × Response))
    (hbefore : ∀ r ∈ before, r.Regular ∧ r.result.depth ≤ 126)
    (hbehind : ∀ p ∈ behind, '\n' ∉ p.1.toList ∧ Response.read p.1 = .ok p.2) :
    readFrame ("\n".intercalate (before.map Response.write ++ line :: behind.map (·.1))) =
      before.map .ok ++ readFrame line ++ behind.map (.ok ·.2) := by
  have hwritten : (before.map fun r => r.toEnvelope.response) = before.map .ok :=
    List.map_congr_left fun r hr => Response.envelope_response (hbefore r hr).1 (hbefore r hr).2
  rw [readFrame_lines before (fun r hr => (hbefore r hr).1), hwritten, List.append_assoc]
  congr 1
  have hlines : ∀ l ∈ behind.map fun p => (p.1.toList, p.2),
      '\n' ∉ l.1 ∧ Response.readChars l.1 = .ok l.2 := by
    intro l hl
    obtain ⟨p, hp, rfl⟩ := List.mem_map.mp hl
    exact hbehind p hp
  obtain ⟨hframe, hread⟩ := readFrameChars_below hlines
  have htext : ("\n".intercalate (line :: behind.map (·.1))).toList =
      line.toList ++ below ((behind.map fun p => (p.1.toList, p.2)).map (·.1)) := by
    rw [intercalate_toList, List.map_map, List.map_map]
    rfl
  have hbeyond := below_beyond fun l hl => holds_of_readChars (hlines l hl).1 (hlines l hl).2
  rw [readFrame, htext, readFrameChars_append hbeyond (hread.trans hframe.symm), hframe, List.map_map]
  rfl

def indented (r : Response) : String := "\u00a0" ++ r.write

theorem indented_reads (h : q.Regular) (hd : q.result.depth ≤ 126) :
    '\n' ∉ (indented q).toList ∧ Response.read (indented q) = .ok q := by
  have htext : (indented q).toList = ['\u00a0'] ++ q.chars := by
    simp [indented, Response.write]
  have hblank : AllBlank ['\u00a0'] := by
    intro c hc
    cases List.mem_singleton.mp hc
    decide
  constructor
  · intro hn
    rw [htext] at hn
    have hchars := (List.mem_cons.mp hn).resolve_left (by decide)
    exact absurd (envelopeChars_printable q.id q.payloadChars _ hchars) (by decide)
  · have hwritten := Response.read_written h
    rw [Response.read, Response.write, String.toList_ofList] at hwritten
    rw [Response.read, htext, readChars_blank_append hblank, hwritten,
      Response.envelope_response h hd]

/-- A list that is cut off, between the deepest response there is and an indented one. -/
theorem unfinished_list_hides_no_other :
    (∃ why, readFrame "[1," = [.error (.invalidEnvelope why)]) ∧
    readFrame ("\n".intercalate
      [(nestedResponse 126).write, "[1,", indented (nestedResponse 1)]) =
        [.ok (nestedResponse 126)] ++ readFrame "[1," ++ [.ok (nestedResponse 1)] := by
  constructor
  · have hopen : nextItem true ['1', ','] = .ok (.entry ['1', ',']) := rfl
    have hitem : (value 126).run ['1', ','] = .ok (.number (wholeNumber false 1), [',']) := rfl
    have hend : nextItem false [','] = .error (.here .missingValue []) := rfl
    have hitems : items (value 126) true ['1', ','] = .error (.here .missingValue []) := by
      rw [items_entry hopen, hitem]
      simp only [items_fault hend]
      rfl
    have hvalue : (value maxDepth).run "[1,".toList = .error (.here .missingValue []) :=
      congrArg (Except.map _) hitems
    have hskip : skipSpace "[1,".toList = "[1,".toList := rfl
    rw [readFrame, readFrameChars_fault hskip (by decide) hvalue]
    exact ⟨_, rfl⟩
  · refine bad_line_hides_no_other [nestedResponse 126] "[1,"
      [(indented (nestedResponse 1), nestedResponse 1)] ?_ ?_
    · intro r hr
      cases List.mem_singleton.mp hr
      exact ⟨nestedResponse_regular 126, Nat.le_of_eq (nested_depth 126)⟩
    · intro p hp
      cases List.mem_singleton.mp hp
      exact indented_reads (nestedResponse_regular 1) (nested_depth 1 ▸ (by decide : 1 ≤ 126))

end Switchboard.Message
