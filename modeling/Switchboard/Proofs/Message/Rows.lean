import Mathlib.Data.List.Forall2
import Switchboard.Proofs.Message.Recovery

namespace Switchboard.Message

open Json
open Text (AllBlank)

variable {s text rest line blanks : List Char} {r : Response} {last : String}
  {parts : List (String × Response)}

/-- Responses by lines: one goes to the line of the next unless a line feed stands between them. -/
def rows : List (String × Response) → List (List Response)
  | [] => []
  | [p] => [[p.2]]
  | p :: q :: parts =>
    if '\n' ∈ q.1.toList then [p.2] :: rows (q :: parts)
    else (rows (q :: parts)).modifyHead (p.2 :: ·)

/-- What is read off a line of written responses by itself. -/
inductive Row : List Response → Except Unreadable Response → Prop
  | alone (r : Response) : Row [r] (.ok r)
  | crowded (r q : Response) (row : List Response) (why : Json.Refusal) :
      Row (r :: q :: row) (.error (.invalidEnvelope why))

theorem trimEnd_allBlank (hb : AllBlank blanks) : Text.trimEnd blanks = [] := by
  induction blanks with
  | nil => rfl
  | cons c blanks ih =>
    obtain ⟨hc, hb⟩ := List.forall_mem_cons.mp hb
    rw [Text.trimEnd, ih hb]
    simp [hc]

/-- Only what comes last is trimmed. -/
theorem trimEnd_append_of_ne_nil (h : Text.trimEnd rest ≠ []) (text : List Char) :
    Text.trimEnd (text ++ rest) = text ++ Text.trimEnd rest := by
  induction text with
  | nil => rfl
  | cons c text ih =>
    rw [List.cons_append, Text.trimEnd, ih]
    cases ht : text ++ Text.trimEnd rest with
    | nil => exact absurd (List.append_eq_nil_iff.mp ht).2 h
    | cons d ds => rw [List.cons_append, ht]

theorem trimEnd_append_allBlank (hb : AllBlank blanks) (text : List Char) :
    Text.trimEnd (text ++ blanks) = Text.trimEnd text := by
  induction text with
  | nil => exact trimEnd_allBlank hb
  | cons c text ih => rw [List.cons_append, Text.trimEnd, ih, Text.trimEnd]

/-- Blanks behind a line do not count. -/
theorem readChars_append_blank (hb : AllBlank blanks) (text : List Char) :
    Response.readChars (text ++ blanks) = Response.readChars text := by
  have htrim : Text.trim (text ++ blanks) = Text.trim text := by
    rw [Text.trim, Text.trim, List.dropWhile_append]
    split
    · next hnil =>
      rw [List.isEmpty_iff.mp hnil]
      exact trimEnd_allBlank fun c hc => hb c ((List.dropWhile_sublist _).subset hc)
    · exact trimEnd_append_allBlank hb _
  rw [Response.readChars, readEnvelope, htrim]
  rfl

/-- Blanks before what is read line by line do not count, even on lines of their own. -/
theorem readLines_blank_append (hb : AllBlank blanks) (text : List Char) :
    readLines (blanks ++ text) = readLines text := by
  induction blanks with
  | nil => rfl
  | cons c blanks ih =>
    obtain ⟨hc, hb⟩ := List.forall_mem_cons.mp hb
    rw [← ih hb, List.cons_append]
    by_cases hfeed : c = '\n'
    · subst hfeed
      simp [readLines, Text.lines_feed]
    · obtain ⟨l, ls, hl⟩ := List.exists_cons_of_ne_nil (Text.lines_ne_nil (blanks ++ text))
      have hsame : Response.readChars (c :: l) = Response.readChars l :=
        readChars_blank_append (List.forall_mem_singleton.mpr hc) l
      rw [readLines, readLines, Text.lines_cons hfeed hl, hl]
      simp only [List.filter_cons, List.all_cons, hc, Bool.true_and]
      split
      · rw [List.map_cons, List.map_cons, hsame]
      · rfl

/-- A text is cut at its first line feed, if it has one. -/
theorem cut_at_feed (text : List Char) :
    ∃ line rest, text = line ++ rest ∧ '\n' ∉ line ∧ (rest = [] ∨ Newline rest) := by
  induction text with
  | nil => exact ⟨[], [], rfl, List.not_mem_nil, .inl rfl⟩
  | cons c text ih =>
    by_cases hc : c = '\n'
    · subst hc
      exact ⟨[], '\n' :: text, rfl, List.not_mem_nil, .inr ⟨text, rfl⟩⟩
    · obtain ⟨line, rest, rfl, hn, hrest⟩ := ih
      exact ⟨c :: line, rest, rfl, by simp [Ne.symm hc, hn], hrest⟩

/-- A text without a line feed lengthens the line it is put before. -/
theorem readLines_extend {c : Char} (hc : c ≠ '\n') (hblank : ¬ Text.isBlank c) (text : List Char) :
    ∃ line after, ∀ before, '\n' ∉ before →
      readLines (before ++ c :: text) =
        Response.readChars (before ++ c :: line) :: readLines after := by
  obtain ⟨line, after, rfl, hn, hafter⟩ := cut_at_feed text
  refine ⟨line, after, fun before hbefore => ?_⟩
  have hline : '\n' ∉ before ++ c :: line := by
    simp only [List.mem_append, List.mem_cons, not_or]
    exact ⟨hbefore, Ne.symm hc, hn⟩
  have hnot : ¬ AllBlank (before ++ c :: line) := fun hall => hblank (hall c (by simp))
  rw [← List.cons_append, ← List.append_assoc, readLines_append hafter,
    readLines_single hline hnot]
  rfl

theorem Response.chars_cons (h : r.Regular) : ∃ cs, r.chars = '{' :: cs := by
  rw [r.chars_eq h.id, chars_object]
  exact ⟨_, rfl⟩

theorem Response.feed_not_mem_chars (r : Response) : '\n' ∉ r.chars :=
  fun hm => absurd (envelopeChars_printable r.id r.payloadChars _ hm) (by decide)

theorem Response.readChars_alone (h : r.Regular) (hd : r.result.depth ≤ 126)
    (hb : AllBlank blanks) : Response.readChars (r.chars ++ blanks) = .ok r := by
  have hread := Response.read_written h
  rw [Response.read, Response.write, String.toList_ofList, Response.envelope_response h hd] at hread
  rw [readChars_append_blank hb, hread]

/-- A response with more than blanks behind it is refused as a whole. -/
theorem Response.readChars_crowded (h : r.Regular) (hrest : ¬ AllBlank rest) :
    ∃ why, Response.readChars (r.chars ++ rest) = .error (.invalidEnvelope why) := by
  obtain ⟨blanks, hblanks, hsplit⟩ := Text.trimEnd_append rest
  obtain ⟨cs, hcs⟩ := Response.chars_cons h
  have hleft : ¬ AllBlank (Text.trimEnd rest) := by
    intro hall
    apply hrest
    rw [hsplit]
    exact List.forall_mem_append.mpr ⟨hall, hblanks⟩
  have hne : Text.trimEnd rest ≠ [] := fun hnil => hleft (hnil ▸ List.forall_mem_nil _)
  have htrim : Text.trim (r.chars ++ rest) = r.chars ++ Text.trimEnd rest := by
    rw [Text.trim, hcs, List.cons_append, List.dropWhile_cons_of_neg (by decide),
      ← List.cons_append, trimEnd_append_of_ne_nil hne]
  have hreads := envelope.run_object_reads (d := 126) envelope_faithful
    (fun m hm => ⟨(envelopeMembers_regular r.id h.id r.payloadChars m hm).1,
      Nat.le_of_lt_succ (envelopeMembers_regular r.id h.id r.payloadChars m hm).2⟩)
    (Text.trimEnd rest)
  rw [envelope_ofValue, ← r.chars_eq h.id] at hreads
  have hrun : (envelope.reader maxDepth).run (r.chars ++ Text.trimEnd rest) =
      .ok (r.toEnvelope, Text.trimEnd rest) := hreads
  rw [Response.readChars, readEnvelope, htrim, Record.parse, Reader.whole, hrun]
  cases hs : skipSpace (Text.trimEnd rest) with
  | nil => exact absurd (allBlank_of_skipSpace hs) hleft
  | cons c u =>
    simp only [hs]
    exact ⟨_, rfl⟩

/-- A response that has its line for itself is read, whatever stands on the lines behind. -/
theorem readLines_alone (h : r.Regular) (hd : r.result.depth ≤ 126) (hb : AllBlank blanks)
    (hn : '\n' ∉ blanks) (hrest : rest = [] ∨ Newline rest) :
    readLines (r.chars ++ (blanks ++ rest)) = .ok r :: readLines rest := by
  have hline : '\n' ∉ r.chars ++ blanks :=
    fun hm => (List.mem_append.mp hm).elim r.feed_not_mem_chars hn
  have hblank : ¬ AllBlank (r.chars ++ blanks) := by
    obtain ⟨cs, hcs⟩ := Response.chars_cons h
    intro hall
    exact absurd (hall '{' (by simp [hcs])) (by decide)
  rw [← List.append_assoc, readLines_append hrest, readLines_single hline hblank,
    Response.readChars_alone h hd hb]
  rfl

theorem framed_cons_toList (last : String) (q : String × Response)
    (parts : List (String × Response)) :
    (framed last (q :: parts)).toList =
      q.1.toList ++ (q.2.chars ++ (framed last parts).toList) := by
  obtain ⟨before, r⟩ := q
  simp [framed, Response.write]

theorem Blank.allBlank {s : String} (h : Blank s) : AllBlank s.toList :=
  fun c hc => isBlank_of_isSpace (h.isSpace c hc)

/-- Blanks that are cut at their first line feed, or at their end. -/
theorem Blank.cut {s : String} (h : Blank s) :
    ∃ line rest, s.toList = line ++ rest ∧ '\n' ∉ line ∧ (rest = [] ∨ Newline rest) ∧
      AllBlank line ∧ AllBlank rest := by
  obtain ⟨line, rest, hs, hn, hrest⟩ := cut_at_feed s.toList
  have hall := h.allBlank
  rw [hs] at hall
  exact ⟨line, rest, hs, hn, hrest, (List.forall_mem_append.mp hall).1,
    (List.forall_mem_append.mp hall).2⟩

/-- Written responses are read row by row where a frame is read line by line. -/
theorem readLines_rows (hlast : Blank last) (p : String × Response)
    (hparts : ∀ q ∈ p :: parts, Blank q.1 ∧ q.2.Regular ∧ q.2.result.depth ≤ 126) :
    List.Forall₂ Row (rows (p :: parts))
      (readLines (p.2.chars ++ (framed last parts).toList)) := by
  induction parts generalizing p with
  | nil =>
    obtain ⟨-, hp, hd⟩ := hparts p (by simp)
    obtain ⟨line, rest, hs, hn, hrest, hline, hblank⟩ := hlast.cut
    rw [framed, hs, readLines_alone hp hd hline hn hrest, readLines_allBlank hblank]
    exact .cons (.alone p.2) .nil
  | cons q parts ih =>
    have ih := ih q fun q hq => hparts q (List.mem_cons_of_mem p hq)
    obtain ⟨-, hp, hd⟩ := hparts p (by simp)
    obtain ⟨hsep, hq, -⟩ := hparts q (by simp)
    rw [framed_cons_toList, rows]
    split
    · next hfeed =>
      obtain ⟨line, rest, hs, hn, hrest, hline, hblank⟩ := hsep.cut
      have hnewline : Newline rest := by
        refine hrest.resolve_left fun hnil => hn ?_
        rwa [hs, hnil, List.append_nil] at hfeed
      have hafter : Newline (rest ++ (q.2.chars ++ (framed last parts).toList)) := by
        obtain ⟨behind, rfl⟩ := hnewline
        exact ⟨_, rfl⟩
      rw [hs, List.append_assoc, readLines_alone hp hd hline hn (.inr hafter),
        readLines_blank_append hblank]
      exact .cons (.alone p.2) ih
    · next hfeed =>
      obtain ⟨cs, hcs⟩ := Response.chars_cons hq
      obtain ⟨line, after, hlines⟩ := readLines_extend (c := '{') (by decide) (by decide)
        (cs ++ (framed last parts).toList)
      have hfirst := hlines [] List.not_mem_nil
      have hlong := hlines (p.2.chars ++ q.1.toList)
        fun hm => (List.mem_append.mp hm).elim p.2.feed_not_mem_chars hfeed
      rw [hcs, List.cons_append] at ih ⊢
      simp only [List.nil_append] at hfirst
      rw [hfirst] at ih
      rw [← List.append_assoc, hlong]
      generalize Response.readChars ('{' :: line) = entry at ih
      -- the line of the next response grows by this one, and is refused from now on
      cases hrows : rows (q :: parts) with
      | nil =>
        rw [hrows] at ih
        cases ih
      | cons row others =>
        rw [hrows] at ih
        obtain ⟨hrow, hothers⟩ := List.forall₂_cons.mp ih
        have hnot : ¬ AllBlank (q.1.toList ++ '{' :: line) :=
          fun hall => absurd (hall '{' (by simp)) (by decide)
        obtain ⟨why, hwhy⟩ := Response.readChars_crowded hp hnot
        rw [List.append_assoc, hwhy]
        refine .cons ?_ hothers
        cases hrow with
        | alone => exact .crowded ..
        | crowded => exact .crowded ..

theorem skipSpace_framed (hlast : Blank last) (hparts : ∀ p ∈ parts, Blank p.1 ∧ p.2.Regular) :
    skipSpace (framed last parts).toList = [] ∨
      ∃ cs, skipSpace (framed last parts).toList = '{' :: cs := by
  cases parts with
  | nil => exact .inl (List.dropWhile_eq_nil_iff.mpr hlast.isSpace)
  | cons p parts =>
    obtain ⟨hb, hr⟩ := hparts p (by simp)
    obtain ⟨cs, hcs⟩ := Response.chars_cons hr
    refine .inr ⟨cs ++ (framed last parts).toList, ?_⟩
    rw [framed_cons_toList, skipSpace_append hb.isSpace, hcs]
    rfl

/-- No written responses go on with what stands before them. -/
theorem framed_stops (hlast : Blank last) (hparts : ∀ p ∈ parts, Blank p.1 ∧ p.2.Regular) :
    Stops (framed last parts).toList := by
  intro c u hc
  rcases skipSpace_framed hlast hparts with hnil | ⟨cs, hcons⟩
  · rw [hnil] at hc
    cases hc
  · rw [hcons] at hc
    cases hc
    decide

theorem framed_beyond (hlast : Blank last) (hparts : ∀ p ∈ parts, Blank p.1 ∧ p.2.Regular) :
    Beyond ('\n' :: (framed last parts).toList) := by
  have hstops := framed_stops hlast hparts
  refine ⟨⟨rfl, fun _ => hstops, fun _ d v rest hv => ?_⟩, hstops, .inr ⟨_, rfl⟩⟩
  have hv : (value d).run (framed last parts).toList = .ok (v, rest) := by
    rw [← hv, ← value_skipSpace, ← value_skipSpace d ('\n' :: _)]
    rfl
  cases parts with
  | nil =>
    obtain ⟨c, u, hcons⟩ := value_opens hv
    have hnil : skipSpace last.toList = [] := List.dropWhile_eq_nil_iff.mpr hlast.isSpace
    rw [framed, hnil] at hcons
    cases hcons
  | cons p parts =>
    obtain ⟨hb, hr⟩ := hparts p (by simp)
    rw [framed_cons_toList, ← value_skipSpace, skipSpace_append hb.isSpace, value_skipSpace] at hv
    cases (value_spans d).rest_eq (value_spans maxDepth) hv (Response.value_run hr _)
    exact framed_stops hlast fun q hq => hparts q (List.mem_cons_of_mem p hq)

/-- Written responses on a new line are read row by row. -/
theorem readLines_framed (hlast : Blank last)
    (hparts : ∀ p ∈ parts, Blank p.1 ∧ p.2.Regular ∧ p.2.result.depth ≤ 126) :
    List.Forall₂ Row (rows parts) (readLines ('\n' :: (framed last parts).toList)) := by
  have hfeed : AllBlank ['\n'] := List.forall_mem_singleton.mpr (by decide)
  rw [← List.singleton_append, readLines_blank_append hfeed]
  cases parts with
  | nil =>
    rw [framed, readLines_allBlank hlast.allBlank]
    exact .nil
  | cons p parts =>
    rw [framed_cons_toList, readLines_blank_append (hparts p (by simp)).1.allBlank]
    exact readLines_rows hlast p hparts

/-- Written responses behind a text are read as they are or row by row, as the text ends. -/
theorem readFrame_behind (hlast : Blank last)
    (hparts : ∀ p ∈ parts, Blank p.1 ∧ p.2.Regular ∧ p.2.result.depth ≤ 126) (g : String) :
    readFrame (g ++ "\n" ++ framed last parts) =
      readFrame g ++ if ending g.toList = .clear then parts.map (.ok ·.2)
        else readLines ('\n' :: (framed last parts).toList) := by
  have hregular : ∀ p ∈ parts, Blank p.1 ∧ p.2.Regular :=
    fun p hp => ⟨(hparts p hp).1, (hparts p hp).2.1⟩
  have hfeed : ∀ c ∈ ['\n'], isSpace c := List.forall_mem_singleton.mpr rfl
  have hstream : readFrameChars ('\n' :: (framed last parts).toList) = parts.map (.ok ·.2) := by
    rw [← List.singleton_append, readFrameChars_skip hfeed]
    refine (readFrame_framed hlast parts hregular).trans (List.map_congr_left fun p hp => ?_)
    exact Response.envelope_response (hparts p hp).2.1 (hparts p hp).2.2
  have htext : (g ++ "\n" ++ framed last parts).toList =
      g.toList ++ '\n' :: (framed last parts).toList := by simp
  rw [readFrame, htext, readFrameChars_beyond (framed_beyond hlast hregular) ⟨_, rfl⟩, hstream]
  rfl

theorem rows_of_feeds (h : ∀ p ∈ parts.tail, '\n' ∈ p.1.toList) :
    rows parts = parts.map fun p => [p.2] := by
  induction parts with
  | nil => rfl
  | cons p parts ih =>
    cases parts with
    | nil => rfl
    | cons q parts =>
      obtain ⟨hq, hparts⟩ := List.forall_mem_cons.mp h
      rw [rows, if_pos hq, ih hparts]
      rfl

/-- Rows of one response each are read response by response. -/
theorem alone_eq {es : List (Except Unreadable Response)}
    (h : List.Forall₂ Row (parts.map fun p => [p.2]) es) : es = parts.map (.ok ·.2) := by
  induction parts generalizing es with
  | nil =>
    cases h
    rfl
  | cons p parts ih =>
    cases h with
    | cons hrow hrest =>
      cases hrow
      rw [ih hrest]
      rfl

/-- Written responses behind a text are all read if the text comes to its end as a stream of values
or if they stand on lines of their own. If the stream stops in the text, or loses a value there, the
responses are read by lines: each that has a line for itself is read, and those that share a line
are refused together. -/
theorem responses_behind_any_text (g last : String) (hlast : Blank last)
    (parts : List (String × Response))
    (hparts : ∀ p ∈ parts, Blank p.1 ∧ p.2.Regular ∧ p.2.result.depth ≤ 126) :
    ∃ entries, readFrame (g ++ "\n" ++ framed last parts) = readFrame g ++ entries ∧
      (ending g.toList = .clear → entries = parts.map (.ok ·.2)) ∧
      (ending g.toList ≠ .clear → List.Forall₂ Row (rows parts) entries) ∧
      ((∀ p ∈ parts.tail, '\n' ∈ p.1.toList) → entries = parts.map (.ok ·.2)) := by
  have hrows := readLines_framed hlast hparts
  refine ⟨_, readFrame_behind hlast hparts g, fun hclear => if_pos hclear, fun hnot => ?_,
    fun hfeeds => ?_⟩
  · rw [if_neg hnot]
    exact hrows
  · split
    · rfl
    · rw [rows_of_feeds hfeeds] at hrows
      exact alone_eq hrows

def crowdedParts : List (String × Response) :=
  [("", nestedResponse 0), ("", nestedResponse 1), ("\n", nestedResponse 2)]

theorem crowdedParts_written :
    ∀ p ∈ crowdedParts, Blank p.1 ∧ p.2.Regular ∧ p.2.result.depth ≤ 126 := by
  have h : ∀ s n, Blank s → n ≤ 126 → Blank (s, nestedResponse n).1 ∧
      (s, nestedResponse n).2.Regular ∧ (s, nestedResponse n).2.result.depth ≤ 126 :=
    fun s n hs hn => ⟨hs, nestedResponse_regular n, Nat.le_trans (Nat.le_of_eq (nested_depth n)) hn⟩
  intro p hp
  simp only [crowdedParts, List.mem_cons, List.not_mem_nil, or_false] at hp
  rcases hp with rfl | rfl | rfl
  · exact h "" 0 (by simp [Blank]) (by decide)
  · exact h "" 1 (by simp [Blank]) (by decide)
  · exact h "\n" 2 (by simp [Blank]) (by decide)

theorem stray_broken : ending "x".toList = .broken ∧
    ∃ why, readFrame "x" = [.error (.invalidEnvelope why)] := by
  have hskip : skipSpace "x".toList = "x".toList := rfl
  have hvalue : ∃ f, (value maxDepth).run "x".toList = .error f := ⟨_, rfl⟩
  obtain ⟨f, hf⟩ := hvalue
  refine ⟨ending_fault hskip (by decide) hf, ?_⟩
  rw [readFrame, readFrameChars_fault hskip (by decide) hf]
  exact ⟨_, rfl⟩

theorem crowdedParts_rows :
    rows crowdedParts = [[nestedResponse 0, nestedResponse 1], [nestedResponse 2]] := by
  simp [rows, crowdedParts]

/-- Behind a character no value begins with, the third response is read and the others are not. -/
theorem crowded_responses_behind_stray :
    Blank "" ∧ ending "x".toList ≠ .clear ∧
    ∃ why, readFrame ("x" ++ "\n" ++ framed "" crowdedParts) =
      readFrame "x" ++ [.error (.invalidEnvelope why), .ok (nestedResponse 2)] := by
  have hblank : Blank "" := by simp [Blank]
  have hnot : ending "x".toList ≠ .clear := by
    rw [stray_broken.1]
    decide
  obtain ⟨entries, hread, -, hrows, -⟩ :=
    responses_behind_any_text "x" "" hblank crowdedParts crowdedParts_written
  have hrows := hrows hnot
  rw [crowdedParts_rows] at hrows
  refine ⟨hblank, hnot, ?_⟩
  rw [hread]
  cases hrows with
  | cons hfirst hrest =>
    cases hrest with
    | cons hthird hnone =>
      cases hfirst with
      | crowded _ _ _ why =>
        cases hthird
        cases hnone
        exact ⟨why, rfl⟩

/-- They would all be read if they stood alone. -/
theorem crowded_responses_lost :
    (∃ why, readFrame "x" = [.error (.invalidEnvelope why)]) ∧
    readFrame (framed "" crowdedParts) = crowdedParts.map (.ok ·.2) ∧
    readFrame ("x" ++ "\n" ++ framed "" crowdedParts) ≠
      readFrame "x" ++ crowdedParts.map (.ok ·.2) := by
  have hblank : Blank "" := by simp [Blank]
  refine ⟨stray_broken.2, ?_, fun heq => ?_⟩
  · refine (readFrame_framed hblank crowdedParts fun p hp => ?_).trans
      (List.map_congr_left fun p hp => ?_)
    · exact ⟨(crowdedParts_written p hp).1, (crowdedParts_written p hp).2.1⟩
    · exact Response.envelope_response (crowdedParts_written p hp).2.1
        (crowdedParts_written p hp).2.2
  · have hnot : ending "x".toList ≠ .clear := by
      rw [stray_broken.1]
      decide
    rw [readFrame_behind hblank crowdedParts_written, if_neg hnot] at heq
    have hlength := (readLines_framed hblank crowdedParts_written).length_eq
    rw [List.append_cancel_left heq, crowdedParts_rows] at hlength
    exact absurd hlength (by decide)

end Switchboard.Message
