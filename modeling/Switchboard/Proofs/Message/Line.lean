import Switchboard.Proofs.Json.Reread
import Switchboard.Proofs.Message.Frame
import Switchboard.Proofs.Message.Grammar
import Switchboard.Proofs.Text.Lines

namespace Switchboard.Message

open Json
open Text (AllBlank)

variable {text rest line body blanks : List Char} {d : Nat} {e : Envelope} {v : Value}
  {q : Response}

theorem envelope_sound : ∀ f ∈ envelope.fields, f.Sound := by
  intro f hf
  simp only [envelope, List.mem_cons, List.not_mem_nil, or_false] at hf
  rcases hf with rfl | rfl
  · refine .of_reader (fun _ => unsigned) unsignedOf (fun _ => unsigned_spans) ?_ ?_
      (fun _ _ => rfl) fun _ _ => rfl
    · intro _ text id rest s hs _ h
      obtain ⟨n, hn, hword⟩ := unsigned_iff.mp h
      exact unsigned_iff.mpr ⟨n, hn.followed hs, hword⟩
    · intro d text id v rest h hv
      obtain ⟨n, hn, hword⟩ := unsigned_iff.mp h
      cases (hn.value_run d).symm.trans hv
      exact hword
  · refine .of_reader value .ok value_spans ?_ ?_ (fun _ _ => rfl) fun _ _ => rfl
    · exact fun d text v rest s hs hn h => value_followed hs hn h
    · exact fun d text v w rest h hv => by
        cases h.symm.trans hv
        rfl

theorem IsEnvelope.members {ms : List (String × Value)} (h : IsEnvelope (.object ms) e) :
    IsEnvelope (.object (Json.members ms)) e := by
  cases h with
  | object hid ids payloads =>
    refine .object hid ?_ ?_
    · rw [under_members (by simp [ids]), ids]
    · rw [Given, under_members payloads.length_le]
      exact payloads

/-- The envelope read off a text is that of the value read off it. -/
theorem envelope_value (h : envelope.run d text = .ok (e, rest)) {rest' : List Char}
    (hv : (value d).run text = .ok (v, rest')) : rest = rest' ∧ envelope.ofValue v = .ok e := by
  have hspans := envelope.run_spans envelope_sound d
  refine ⟨hspans.rest_eq (value_spans d) h hv, ?_⟩
  rcases envelope.run_value envelope_sound h hv with ⟨vs, rfl, hof⟩ | ⟨ws, rfl, hof⟩
  · exact hof
  · exact (envelope_ofValue_iff _ _).mpr ((envelope_ofValue_iff _ _).mp hof).members

theorem isBlank_of_isSpace {c : Char} (h : isSpace c) : Text.isBlank c := by
  simp only [isSpace, Bool.or_eq_true, decide_eq_true_eq] at h
  rcases h with ((rfl | rfl) | rfl) | rfl <;> decide

theorem allBlank_of_skipSpace (h : skipSpace text = []) : AllBlank text := by
  intro c hc
  exact isBlank_of_isSpace (List.dropWhile_eq_nil_iff.mp h c hc)

/-- Blanks before a line do not count. -/
theorem readChars_blank_append (hb : AllBlank blanks) (text : List Char) :
    Response.readChars (blanks ++ text) = Response.readChars text := by
  simp only [Response.readChars, readEnvelope, Text.trim_append hb]

theorem ends_of_allBlank (h : AllBlank text) : continuesNumber text = false := by
  cases text with
  | nil => rfl
  | cons c text =>
    have hc : Text.isBlank c := h c (by simp)
    have hd : isDigit c = false := by
      rw [Bool.eq_false_iff]
      intro hd
      rw [isBlank_of_isDigit hd] at hc
      contradiction
    have hne : c ≠ '.' ∧ c ≠ 'e' ∧ c ≠ 'E' := by
      refine ⟨?_, ?_, ?_⟩ <;> rintro rfl <;> exact absurd hc (by decide)
    simp [continuesNumber, hd, hne]

/-- No value begins with a blank that may not stand before one. -/
theorem value_stuck {c : Char} (hc : Text.isBlank c) (ht : skipSpace text = c :: rest) (d : Nat) :
    ∃ f, (value d).run text = .error f := by
  obtain ⟨list, object, hv⟩ := value_run d text
  have hother : c ∉ ['n', 't', 'f', '-', '"', '[', '{'] := by
    intro hm
    simp only [List.mem_cons, List.not_mem_nil, or_false] at hm
    rcases hm with rfl | rfl | rfl | rfl | rfl | rfl | rfl <;> exact absurd hc (by decide)
  have hd : ¬ isDigit c := by
    intro hd
    rw [isBlank_of_isDigit hd] at hc
    contradiction
  rw [hv, ht, valueWith_other hother, if_neg hd]
  exact ⟨_, rfl⟩

/-- A line with a response: blanks, an envelope and blanks. -/
inductive Holds : List Char → Response → Prop
  | intro {blanks body after : List Char} {c : Char} {e : Envelope} {q : Response}
      (hblanks : AllBlank blanks) (hopen : c = '[' ∨ c = '{')
      (hrun : envelope.run maxDepth (c :: body) = .ok (e, after)) (hafter : AllBlank after)
      (hq : e.response = .ok q) : Holds (blanks ++ c :: body) q

theorem whole_ok {reader : Reader α} {a : α} (h : reader.whole text = .ok a) :
    ∃ rest, reader.run text = .ok (a, rest) ∧ skipSpace rest = [] := by
  unfold Reader.whole at h
  split at h
  · contradiction
  · next a' rest hrun =>
    split at h
    · next hrest =>
      cases h
      exact ⟨rest, hrun, hrest⟩
    · contradiction

theorem mapError_ok {x : Except ε α} {f : ε → δ} {a : α} (h : x.mapError f = .ok a) :
    x = .ok a := by
  cases x with
  | error e => contradiction
  | ok b =>
    cases h
    rfl

/-- A record opens as a list or an object does. -/
theorem run_opens (h : envelope.run d text = .ok (e, rest)) :
    ∃ c u, skipSpace text = c :: u ∧ (c = '[' ∨ c = '{') := by
  rcases Record.run_iff.mp h with ⟨ht, -, -⟩ | ⟨ht, -, -⟩
  · exact ⟨_, _, ht, .inl rfl⟩
  · exact ⟨_, _, ht, .inr rfl⟩

theorem skipSpace_of_dropWhile {c : Char}
    (h : (c :: rest).dropWhile Text.isBlank = c :: rest) : skipSpace (c :: rest) = c :: rest := by
  have hblank : ¬ Text.isBlank c := by
    intro hc
    have hlen := (List.dropWhile_sublist Text.isBlank (l := rest)).length_le
    rw [List.dropWhile_cons_of_pos hc] at h
    rw [h, List.length_cons] at hlen
    omega
  exact List.dropWhile_cons_of_neg fun hc => hblank (isBlank_of_isSpace hc)

/-- A line that reads as a response holds it. -/
theorem holds_of_readChars (hn : '\n' ∉ line) (h : Response.readChars line = .ok q) :
    Holds line q := by
  obtain ⟨blanks, tail, hline, hblanks, hdrop⟩ : ∃ blanks tail, line = blanks ++ tail ∧
      AllBlank blanks ∧ tail.dropWhile Text.isBlank = tail :=
    ⟨line.takeWhile Text.isBlank, line.dropWhile Text.isBlank,
      List.takeWhile_append_dropWhile.symm, fun c hc => List.mem_takeWhile_imp hc,
      List.dropWhile_idempotent ..⟩
  obtain ⟨behind, hbehind, htail⟩ := Text.trimEnd_append tail
  subst hline
  rw [readChars_blank_append hblanks] at h
  obtain ⟨e, henvelope, hq⟩ := bind_eq_ok.mp h
  obtain ⟨after, hrun, hafter⟩ := whole_ok (mapError_ok henvelope)
  have hrun : envelope.run maxDepth (Text.trimEnd tail) = .ok (e, after) := by
    rw [Text.trim, hdrop] at hrun
    exact hrun
  have hnewline : ¬ Newline behind := by
    refine not_newline_of_not_mem fun hmem => hn (List.mem_append_right _ ?_)
    rw [htail]
    exact List.mem_append_right _ hmem
  have hwhole := envelope.run_followed (ends_of_allBlank hbehind) hnewline envelope_sound hrun
  rw [← htail] at hwhole
  have hblank : AllBlank (after ++ behind) :=
    List.forall_mem_append.mpr ⟨allBlank_of_skipSpace hafter, hbehind⟩
  obtain ⟨c, u, ht, hopen⟩ := run_opens hwhole
  cases tail with
  | nil => contradiction
  | cons d body =>
    cases (skipSpace_of_dropWhile hdrop).symm.trans ht
    exact .intro hblanks hopen hwhole hblank hq

theorem skipSpace_opening {c : Char} (hopen : c = '[' ∨ c = '{') (rest : List Char) :
    skipSpace (c :: rest) = c :: rest := by
  rcases hopen with rfl | rfl <;> rfl

/-- What a line begins with. -/
theorem Holds.skipSpace (h : Holds line q) :
    ∃ c u, skipSpace line = c :: u ∧ (Text.isBlank c ∨ c = '[' ∨ c = '{') := by
  obtain @⟨blanks, body, after, c, e, _, hblanks, hopen, -, -, -⟩ := h
  cases hb : Json.skipSpace blanks with
  | nil => exact ⟨c, body, by rw [skipSpace_append_nil hb, skipSpace_opening hopen], .inr hopen⟩
  | cons b rest =>
    refine ⟨b, _, skipSpace_append_cons hb, .inl (hblanks b (mem_of_skipSpace hb))⟩

/-- Where a value is read off a line that holds a response, it is read where the envelope is. -/
theorem Holds.value_body (h : Holds line q) (hv : (value d).run line = .ok (v, rest)) :
    ∃ c body after e, Json.skipSpace line = c :: body ∧ (c = '[' ∨ c = '{') ∧
      envelope.run maxDepth (c :: body) = .ok (e, after) ∧ AllBlank after ∧ e.response = .ok q ∧
      (value d).run (c :: body) = .ok (v, rest) := by
  obtain @⟨blanks, body, after, c, e, _, hblanks, hopen, hrun, hafter, hq⟩ := h
  cases hb : Json.skipSpace blanks with
  | nil =>
    have hs : Json.skipSpace (blanks ++ c :: body) = c :: body := by
      rw [skipSpace_append_nil hb, skipSpace_opening hopen]
    rw [← value_skipSpace, hs] at hv
    exact ⟨c, body, after, e, hs, hopen, hrun, hafter, hq, hv⟩
  | cons b u =>
    have hblank := hblanks b (mem_of_skipSpace hb)
    obtain ⟨f, hf⟩ := value_stuck hblank (skipSpace_append_cons (s := c :: body) hb) d
    cases hv.symm.trans hf

/-- Where a value is read off a line that holds a response, blanks are left over. -/
theorem Holds.value_blank (h : Holds line q) (hv : (value d).run line = .ok (v, rest)) :
    AllBlank rest := by
  obtain ⟨c, body, after, e, -, -, hrun, hafter, -, hv⟩ := h.value_body hv
  have hspans := envelope.run_spans envelope_sound maxDepth
  cases hspans.rest_eq (value_spans d) hrun hv
  exact hafter

theorem readChars_skipSpace (text : List Char) :
    Response.readChars (Json.skipSpace text) = Response.readChars text := by
  have htext : text = text.takeWhile isSpace ++ Json.skipSpace text :=
    List.takeWhile_append_dropWhile.symm
  have hblank : AllBlank (text.takeWhile isSpace) :=
    fun c hc => isBlank_of_isSpace (List.mem_takeWhile_imp hc)
  conv => rhs; rw [htext]
  rw [readChars_blank_append hblank]

theorem readLines_allBlank (h : AllBlank text) : readLines text = [] := by
  rw [readLines, List.filter_eq_nil_iff.mpr, List.map_nil]
  intro line hline
  have hall : line.all Text.isBlank :=
    List.all_eq_true.mpr fun c hc => h c (Text.mem_of_mem_lines hline hc)
  simp [hall]

/-- What is left of a line that is not blank is read as one response or refused as one. -/
theorem readLines_single (hn : '\n' ∉ line) (hblank : ¬ AllBlank line) :
    readLines line = [Response.readChars line] := by
  have hall : line.all Text.isBlank = false := by
    rw [Bool.eq_false_iff]
    exact fun hall => hblank (List.all_eq_true.mp hall)
  simp [readLines, Text.lines_single hn, hall]

theorem readFrameChars_allBlank (h : AllBlank text) : readFrameChars text = [] := by
  cases ht : Json.skipSpace text with
  | nil => exact readFrameChars_blank (List.dropWhile_eq_nil_iff.mp ht)
  | cons c rest =>
    obtain ⟨f, hf⟩ := value_stuck (h c (mem_of_skipSpace ht)) ht maxDepth
    rw [← value_skipSpace] at hf
    rw [readFrameChars_fault rfl (by simp [ht]) hf]
    exact readLines_allBlank fun d hd => h d ((List.dropWhile_sublist isSpace).subset hd)

theorem Holds.not_allBlank (h : Holds line q) : ¬ AllBlank (Json.skipSpace line) := by
  obtain @⟨blanks, body, after, c, e, _, hblanks, hopen, -, -, -⟩ := h
  have hmem : c ∈ Json.skipSpace (blanks ++ c :: body) := by
    cases hb : Json.skipSpace blanks with
    | nil =>
      rw [skipSpace_append_nil hb, skipSpace_opening hopen]
      exact List.mem_cons_self
    | cons b rest =>
      rw [skipSpace_append_cons hb]
      simp
  intro hall
  have hc := hall c hmem
  rcases hopen with rfl | rfl <;> exact absurd hc (by decide)

/-- A line that reads as a response by itself reads as that response as a frame. -/
theorem readFrameChars_line (hn : '\n' ∉ line) (h : Response.readChars line = .ok q) :
    readFrameChars line = [.ok q] := by
  have hholds := holds_of_readChars hn h
  cases hv : (value maxDepth).run line with
  | error f =>
    -- what passes over unknown members allows more than a value does: the frame falls back
    obtain ⟨c, u, hs, -⟩ := hholds.skipSpace
    have hnotin : '\n' ∉ Json.skipSpace line :=
      fun hm => hn ((List.dropWhile_sublist isSpace).subset hm)
    rw [← value_skipSpace] at hv
    rw [readFrameChars_fault rfl (by simp [hs]) hv, readLines_single hnotin hholds.not_allBlank,
      readChars_skipSpace, h]
  | ok p =>
    obtain ⟨v, rest⟩ := p
    have hblank := hholds.value_blank hv
    obtain ⟨c, body, after, e, hs, hopen, hrun, -, hq, hv⟩ := hholds.value_body hv
    have hdelimited : opensDelimited (c :: body) := by rcases hopen with rfl | rfl <;> rfl
    rw [readFrameChars_value hs hv hdelimited, readFrameChars_allBlank hblank, Response.ofValue,
      (envelope_value hrun hv).2]
    exact congrArg (fun x => [x]) hq

end Switchboard.Message
