import Switchboard.Proofs.Json.Converted
import Switchboard.Proofs.Json.Trimmed
import Switchboard.Proofs.Message.Rows
import Switchboard.Proofs.Message.Single

/-!
What a frame takes for a response that a line by itself does not. A frame of one line reads as one
response, and the line by itself does not, in two cases only: a value that does not show its own end
was lost on the line, or a field of the envelope stands in it more than once.
-/

namespace Switchboard.Message

open Json
open Text (AllBlank)

variable {s text rest : List Char} {d : Nat} {e : Envelope} {v : Value} {q : Response}

/-- The object at the front of a text has more than one member for a field of an envelope. -/
def RepeatsField (text : List Char) : Prop :=
  ∃ u ws rest, skipSpace text = '{' :: u ∧
    membersInto (appendMember (value 126)) [] true u = .ok (ws, rest) ∧
    ∃ f ∈ envelope.fields, 1 < (under f.name f.otherName ws).length

theorem envelope_complete : ∀ f ∈ envelope.fields, f.Complete := by
  intro f hf
  simp only [envelope, List.mem_cons, List.not_mem_nil, or_false] at hf
  rcases hf with rfl | rfl
  · exact .of_reader (fun _ => unsigned) unsignedOf (fun _ _ _ _ _ => unsigned_of_value)
      (fun _ _ => rfl) fun _ _ => rfl
  · refine .of_reader value .ok (fun d text a v rest hv h => ?_) (fun _ _ => rfl) fun _ _ => rfl
    cases h
    exact hv

/-- An envelope has each of its fields at most once. -/
theorem IsEnvelope.single {ws : List (String × Value)} (h : IsEnvelope (.object ws) e) :
    ∀ f ∈ envelope.fields, (under f.name f.otherName ws).length ≤ 1 := by
  intro f hf
  simp only [envelope, List.mem_cons, List.not_mem_nil, or_false] at hf
  cases h with
  | object hid ids payloads =>
    rcases hf with rfl | rfl
    · simp [ids]
    · exact payloads.length_le

/-- If no field is given more than once, putting the members in order makes no envelope of what was
none. -/
theorem IsEnvelope.written {ws : List (String × Value)}
    (h : IsEnvelope (.object (Json.members ws)) e)
    (hone : ∀ f ∈ envelope.fields, (under f.name f.otherName ws).length ≤ 1) :
    IsEnvelope (.object ws) e := by
  cases h with
  | object hid ids payloads =>
    have hids := hone _ List.mem_cons_self
    have hpayloads := hone _ (List.mem_cons_of_mem _ List.mem_cons_self)
    rw [under_members hids] at ids
    rw [Given, under_members hpayloads] at payloads
    exact .object hid ids payloads

/-- A value with a response is a list or an object, up to the bracket or brace that closes it. -/
theorem value_closes_response (hv : (value d).run text = .ok (v, rest))
    (hq : Response.ofValue v = .ok q) :
    (∃ c u, skipSpace text = c :: u ∧ (c = '[' ∨ c = '{')) ∧ Closes text rest := by
  obtain ⟨e, he, -⟩ := bind_eq_ok.mp hq
  have he := mapError_ok he
  have hopen : ∃ c u, skipSpace text = c :: u ∧ (c = '[' ∨ c = '{') := by
    cases value_at hv with
    | list ht => exact ⟨_, _, ht, .inl rfl⟩
    | object ht => exact ⟨_, _, ht, .inr rfl⟩
    | number | null | boolean | string => contradiction
  obtain ⟨c, u, ht, hbracket⟩ := hopen
  exact ⟨⟨c, u, ht, hbracket⟩, value_closes hv ht hbracket⟩

/-- The envelope that the value read off a text converts to is read off the text. -/
theorem envelope_run_of_value (hone : ¬ RepeatsField text)
    (hv : (value (126 + 1)).run text = .ok (v, rest)) (he : envelope.ofValue v = .ok e) :
    envelope.run (126 + 1) text = .ok (e, rest) := by
  cases value_at hv with
  | list ht h => exact envelope.run_of_list envelope_complete ht h he
  | @object _ u ws ht h =>
    apply envelope.run_of_object envelope_complete ht h
    rw [envelope_ofValue_iff] at he ⊢
    apply he.written
    intro f hf
    by_contra hlen
    exact hone ⟨u, ws, rest, ht, h, f, hf, Nat.lt_of_not_le hlen⟩
  | number | null | boolean | string => contradiction

theorem RepeatsField.append (hs : continuesNumber s = false) (hn : ¬ Newline s)
    (h : RepeatsField text) : RepeatsField (text ++ s) := by
  obtain ⟨u, ws, rest, ht, hwritten, hmore⟩ := h
  have hmember : ∀ ms k text, Resumed s ((appendMember (value 126) ms k).run text)
      ((appendMember (value 126) ms k).run (text ++ s)) := by
    intro ms k text
    refine .afterColon (fun h => absurd h hn) (fun text => ?_) text
    rw [Reader.map_run, Reader.map_run]
    have hvalue : Resumed s ((value 126).run text) ((value 126).run (text ++ s)) :=
      .of_followed hn fun _ _ h => value_followed hs hn h
    exact hvalue.map fun v => ms ++ [(k, v)]
  have honward := membersInto_onward (fun h => absurd h hn) hmember [] true u
  rw [hwritten] at honward
  exact ⟨u ++ s, ws, rest ++ s, skipSpace_append_cons ht, honward.of_ok, hmore⟩

/-- A line with a field given twice reads as no response by itself. -/
theorem not_repeats_of_readChars (hn : '\n' ∉ text) (h : Response.readChars text = .ok q) :
    ¬ RepeatsField text := by
  rintro ⟨u, ws, rest, ht, hwritten, f, hf, hlen⟩
  have hv := value_object ht hwritten
  obtain ⟨c, body, after, e, hs, -, hrun, -⟩ := (holds_of_readChars hn h).value_body hv
  cases ht.symm.trans hs
  have hone : ∀ {d}, envelope.run (d + 1) ('{' :: u) = .ok (e, after) →
      membersInto (appendMember (value d)) [] true u = .ok (ws, rest) →
      IsEnvelope (.object ws) e := by
    intro d hrun hwritten
    cases Record.run_iff.mp hrun with
    | list hopen => cases hopen
    | object hopen hread hbuild =>
      cases hopen
      obtain ⟨taken, hcollect, rfl⟩ := envelope.members_enter envelope_sound hread hwritten
      rw [← envelope.collect_eq_foldlM] at hcollect
      exact (envelope_ofValue_iff _ _).mp (bind_eq_ok.mpr ⟨_, hcollect, hbuild⟩)
  exact absurd ((hone hrun hwritten).single f hf) (Nat.not_le_of_lt hlen)

/-- A text between brackets is not trimmed. -/
theorem trim_closed {c close : Char} {u front : List Char} (hc : c = '[' ∨ c = '{')
    (hclose : close = ']' ∨ close = '}') (h : front ++ close :: rest = c :: u) :
    Text.trim (front ++ [close]) = front ++ [close] := by
  have hfirst : (front ++ [close]).head? = some c := by
    cases front with
    | nil =>
      cases h
      rfl
    | cons d front =>
      cases h
      rfl
  apply trim_of_ends hfirst List.getLast?_concat
  · rcases hc with rfl | rfl <;> decide
  · rcases hclose with rfl | rfl <;> decide

theorem RepeatsField.of_skipSpace (h : RepeatsField (skipSpace text)) : RepeatsField text := by
  obtain ⟨u, ws, rest, ht, hmore⟩ := h
  rw [skipSpace_skipSpace] at ht
  exact ⟨u, ws, rest, ht, hmore⟩

/-- Where blanks are left over behind a value with a response, and no field is given twice, the text
reads as the response by itself. -/
theorem readChars_of_value (hn : '\n' ∉ text) (hself : skipSpace text = text)
    (hv : (value maxDepth).run text = .ok (v, rest)) (hq : Response.ofValue v = .ok q)
    (hblank : AllBlank rest) (hone : ¬ RepeatsField text) : Response.readChars text = .ok q := by
  obtain ⟨⟨c, u, ht, hbracket⟩, close, hclose, front, hfront⟩ := value_closes_response hv hq
  obtain ⟨e, he, hresponse⟩ := bind_eq_ok.mp hq
  have hsplit : text = (front ++ [close]) ++ rest := by simp [← hfront]
  have hends := ends_of_allBlank hblank
  -- the value reaches to the bracket that closes it, so the text up to there is enough
  have hbody : (value maxDepth).run (front ++ [close]) = .ok (v, []) := by
    rw [hsplit] at hv
    obtain ⟨before, hbefore, hread⟩ := value_kept hends maxDepth _ v rest hv (Nat.le_refl _)
    cases List.self_eq_append_left.mp hbefore
    exact hread
  have hnewline : ¬ Newline rest := by
    apply not_newline_of_not_mem
    intro hmem
    apply hn
    rw [hsplit]
    exact List.mem_append_right _ hmem
  have hnot : ¬ RepeatsField (front ++ [close]) := by
    intro hrepeats
    apply hone
    rw [hsplit]
    exact hrepeats.append hends hnewline
  have hparse : envelope.parse (front ++ [close]) = .ok e := by
    have hrun : envelope.run maxDepth (front ++ [close]) = .ok (e, []) :=
      envelope_run_of_value hnot hbody (mapError_ok he)
    simp [Record.parse, Reader.whole, Record.reader, hrun, skipSpace]
  have htrim := trim_closed hbracket hclose (hfront.trans (hself.symm.trans ht))
  rw [hsplit, readChars_append_blank hblank, Response.readChars, readEnvelope, htrim, hparse]
  exact hresponse

theorem readLines_eq_nil (hn : '\n' ∉ text) (h : readLines text = []) : AllBlank text := by
  by_contra hblank
  rw [readLines_single hn hblank] at h
  contradiction

theorem allBlank_of_skipped (h : AllBlank (Json.skipSpace text)) : AllBlank text := by
  have htext : text = text.takeWhile isSpace ++ Json.skipSpace text :=
    List.takeWhile_append_dropWhile.symm
  rw [htext]
  exact List.forall_mem_append.mpr
    ⟨fun c hc => isBlank_of_isSpace (List.mem_takeWhile_imp hc), h⟩

theorem feed_not_mem_opened {c : Char} {u : List Char} (hn : '\n' ∉ text)
    (hs : skipSpace text = c :: u) : '\n' ∉ c :: u :=
  fun hm => hn ((opened_suffix hs).subset hm)

/-- Where nothing is read, nothing stands, or a value was lost. -/
theorem readFrameChars_eq_nil (hn : '\n' ∉ text) (h : readFrameChars text = []) :
    AllBlank text ∨ ending text = .lost := by
  cases hs : skipSpace text with
  | nil => exact .inl (allBlank_of_skipSpace hs)
  | cons c u =>
    cases hv : (value maxDepth).run (c :: u) with
    | error f =>
      rw [readFrameChars_fault hs (List.cons_ne_nil _ _) hv] at h
      left
      apply allBlank_of_skipped
      rw [hs]
      exact readLines_eq_nil (feed_not_mem_opened hn hs) h
    | ok p =>
      obtain ⟨v, rest⟩ := p
      rw [readFrameChars_cons hs hv] at h
      rw [ending_cons hs hv]
      split at h
      · contradiction
      · next hlost => exact .inr (if_neg hlost)

theorem ending_allBlank (h : AllBlank text) : ending text ≠ .lost := by
  cases hs : skipSpace text with
  | nil => simp [ending_blank hs]
  | cons c u =>
    obtain ⟨f, hf⟩ := value_stuck (h c (mem_of_skipSpace hs)) hs maxDepth
    rw [← value_skipSpace] at hf
    simp [ending_fault rfl (by simp [hs]) hf]

/-- A value that is lost on a line keeps it from reading as a response by itself. -/
theorem not_lost_of_readChars (hn : '\n' ∉ text) (h : Response.readChars text = .ok q) :
    ending text ≠ .lost := by
  have hholds := holds_of_readChars hn h
  cases hv : (value maxDepth).run text with
  | error f =>
    obtain ⟨c, u, hs, -⟩ := hholds.skipSpace
    rw [← value_skipSpace] at hv
    simp [ending_fault rfl (by simp [hs]) hv]
  | ok p =>
    obtain ⟨v, rest⟩ := p
    obtain ⟨c, body, after, e, hs, hopen, -, -, -, hbody⟩ := hholds.value_body hv
    have hdelimited : opensDelimited (c :: body) := by rcases hopen with rfl | rfl <;> rfl
    rw [ending_cons hs hbody, hdelimited]
    exact ending_allBlank (hholds.value_blank hv)

/-- A frame of one line that reads as one response: the line by itself reads as that response too,
unless a value was lost on it or a field of the envelope is given more than once. -/
theorem lone_response_read_by_line_iff (t : String) (q : Response) (hn : '\n' ∉ t.toList)
    (h : readFrame t = [.ok q]) :
    Response.read t = .ok q ↔ ending t.toList ≠ .lost ∧ ¬ RepeatsField t.toList := by
  constructor
  · intro hread
    exact ⟨not_lost_of_readChars hn hread, not_repeats_of_readChars hn hread⟩
  · rintro ⟨hlost, hone⟩
    rw [readFrame] at h
    rw [Response.read]
    generalize t.toList = text at hn h hlost hone ⊢
    cases hs : skipSpace text with
    | nil =>
      rw [readFrameChars_blank (List.dropWhile_eq_nil_iff.mp hs)] at h
      contradiction
    | cons c u =>
      cases hv : (value maxDepth).run (c :: u) with
      | error f =>
        -- the frame falls back to the line itself
        have hfeed := feed_not_mem_opened hn hs
        rw [readFrameChars_fault hs (List.cons_ne_nil _ _) hv] at h
        have hblank : ¬ AllBlank (c :: u) := by
          intro hall
          rw [readLines_allBlank hall] at h
          contradiction
        rw [readLines_single hfeed hblank, ← hs, readChars_skipSpace] at h
        exact (List.cons.inj h).1
      | ok p =>
        obtain ⟨v, rest⟩ := p
        rw [readFrameChars_cons hs hv] at h
        rw [ending_cons hs hv] at hlost
        split at h
        · next hclear =>
          obtain ⟨hq, hrest⟩ := List.cons.inj h
          rw [if_pos hclear] at hlost
          have hfeed := feed_not_mem_opened hn hs
          have hself : skipSpace (c :: u) = c :: u := by rw [← hs, skipSpace_skipSpace]
          obtain ⟨-, close, -, hclosed⟩ := value_closes_response hv hq
          have hbehind : '\n' ∉ rest := fun hm =>
            hfeed (hclosed.subset (List.mem_cons_of_mem close hm))
          have hblank : AllBlank rest := (readFrameChars_eq_nil hbehind hrest).resolve_right hlost
          rw [← readChars_skipSpace, hs]
          apply readChars_of_value hfeed hself hv hq hblank
          intro hrepeats
          rw [← hs] at hrepeats
          exact hone hrepeats.of_skipSpace
        · next hunclear =>
          rw [if_neg hunclear] at hlost
          exact absurd rfl hlost

/-- A word without an end of its own, and a response behind a blank that does not end it. -/
def strayLine : String := "null\u00a0" ++ (nestedResponse 0).write

theorem strayLine_toList :
    strayLine.toList = 'n' :: 'u' :: 'l' :: 'l' :: '\u00a0' :: (nestedResponse 0).chars := by
  simp [strayLine, Response.write]

theorem strayLine_lost : readFrame strayLine = [.ok (nestedResponse 0)] ∧
    ending strayLine.toList = .lost := by
  have hr := nestedResponse_regular 0
  have hs : skipSpace strayLine.toList = strayLine.toList := by
    rw [strayLine_toList]
    rfl
  have hv : (value maxDepth).run strayLine.toList =
      .ok (.null, '\u00a0' :: (nestedResponse 0).chars) := by
    rw [strayLine_toList]
    rfl
  have hfeed : '\n' ∉ '\u00a0' :: (nestedResponse 0).chars := by
    simp [Response.feed_not_mem_chars]
  have hread : Response.readChars ('\u00a0' :: (nestedResponse 0).chars) =
      .ok (nestedResponse 0) := by
    have hblank : AllBlank ['\u00a0'] := List.forall_mem_singleton.mpr (by decide)
    have hnone : AllBlank [] := List.forall_mem_nil _
    have halone := Response.readChars_alone hr (Nat.zero_le _) hnone
    rw [List.append_nil] at halone
    exact (readChars_blank_append hblank _).trans halone
  have hblank : ¬ AllBlank ('\u00a0' :: (nestedResponse 0).chars) := by
    obtain ⟨cs, hcs⟩ := Response.chars_cons hr
    intro hall
    rw [hcs] at hall
    exact absurd (hall '{' (by simp)) (by decide)
  rw [readFrame]
  rw [strayLine_toList] at hs hv ⊢
  rw [readFrameChars_cons hs hv, ending_cons hs hv]
  refine ⟨?_, rfl⟩
  change readLines _ = _
  rw [readLines_single hfeed hblank, hread]

/-- Behind a word that is lost a frame takes the response, and the line by itself is refused. -/
theorem stray_line_read_by_frame : '\n' ∉ strayLine.toList ∧
    readFrame strayLine = [.ok (nestedResponse 0)] ∧
    Response.read strayLine ≠ .ok (nestedResponse 0) := by
  obtain ⟨hframe, hlost⟩ := strayLine_lost
  have hn : '\n' ∉ strayLine.toList := by
    rw [strayLine_toList]
    simp [Response.feed_not_mem_chars]
  refine ⟨hn, hframe, fun hread => ?_⟩
  exact ((lone_response_read_by_line_iff strayLine _ hn hframe).mp hread).1 hlost

def repeatedMembers : List (String × Value) :=
  extendedMembers "request_id" (.number (.integer (.ofNat 1 (by decide)))) (nestedResponse 0)
    (nestedResponse_regular 0).id

def repeatedLine : String := String.ofList (Value.object repeatedMembers).chars

theorem repeatedMembers_read : ∀ m ∈ repeatedMembers, m.2.Regular ∧ m.2.depth ≤ 126 := by
  intro m hm
  rcases List.mem_cons.mp hm with rfl | hm
  · exact ⟨.integer _, Nat.zero_le _⟩
  · obtain ⟨hreg, hd⟩ := envelopeMembers_regular _ (nestedResponse_regular 0).id _ m hm
    exact ⟨hreg, Nat.le_of_lt_succ hd⟩

theorem repeatedLine_repeats : RepeatsField repeatedLine.toList := by
  have hwritten : Reads []
      (membersInto (appendMember (value 126)) [] true (Value.objectBody repeatedMembers ++ []))
      (repeatedMembers.foldlM (fun ws m => .ok (ws ++ [m])) []) := by
    apply membersInto_reads_all
    intro m hm ws rest hr
    obtain ⟨hreg, hd⟩ := repeatedMembers_read m hm
    rw [appendMember, Reader.afterColon_run, Reader.map_run, value_written hreg hd hr]
    rfl
  rw [repeatedLine, String.toList_ofList, chars_object]
  refine ⟨Value.objectBody repeatedMembers, repeatedMembers, [], rfl, ?_, ?_⟩
  · rw [← List.append_nil (Value.objectBody repeatedMembers)]
    exact hwritten
  · refine ⟨_, List.mem_cons_self, ?_⟩
    simp [under, repeatedMembers, extendedMembers, envelopeMembers]

theorem repeatedLine_frame : readFrame repeatedLine = [.ok (nestedResponse 0)] := by
  have hr := nestedResponse_regular 0
  have hlast : members repeatedMembers =
      (envelopeMembers (nestedResponse 0).id hr.id (nestedResponse 0).payloadChars).reverse :=
    (members_repeated ..).trans (members_envelopeMembers ..)
  have hreads := value_object_reads (d := 126)
    (fun m hm _ hends => value_reads (repeatedMembers_read m hm).1 126 hends) []
  have hdepth : Value.membersDepth repeatedMembers ≤ 126 :=
    membersDepth_le.mpr fun m hm => (repeatedMembers_read m hm).2
  rw [if_pos hdepth, hlast, List.append_nil, chars_object] at hreads
  rw [readFrame, repeatedLine, String.toList_ofList, chars_object,
    readFrameChars_value rfl hreads rfl, Response.ofValue_written hr,
    Response.envelope_response hr (Nat.zero_le _), readFrameChars_blank (List.forall_mem_nil _)]

/-- A frame takes the response, and the line by itself is refused. -/
theorem repeated_line_read_by_frame : '\n' ∉ repeatedLine.toList ∧
    readFrame repeatedLine = [.ok (nestedResponse 0)] ∧
    Response.read repeatedLine ≠ .ok (nestedResponse 0) := by
  have hn : '\n' ∉ repeatedLine.toList := by
    intro hm
    rw [repeatedLine, String.toList_ofList] at hm
    have hprintable : ∀ c ∈ (Value.object repeatedMembers).chars, 0x20 ≤ c.toNat :=
      objectChars_printable fun m hm => (repeatedMembers_read m hm).1.chars_printable
    exact absurd (hprintable _ hm) (by decide)
  refine ⟨hn, repeatedLine_frame, ?_⟩
  intro hread
  exact not_repeats_of_readChars hn hread repeatedLine_repeats

end Switchboard.Message
