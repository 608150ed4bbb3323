import Switchboard.Proofs.Message.Line

namespace Switchboard.Message

open Json

variable {k : String} {v : Value} {r : Response} {ms : List (String × Value)}

/-- The envelope of a response, with a member it does not know before its own. -/
def extendedMembers (k : String) (v : Value) (r : Response) (hid : r.id < 2 ^ 64) :
    List (String × Value) :=
  (k, v) :: envelopeMembers r.id hid r.payloadChars

/-- A member that an envelope does not know is passed over, however deep it nests. -/
theorem envelope_run_unknown (hk : envelope.field? k = none) (hv : v.Regular)
    (hms : ∀ m ∈ ms, m.2.Regular ∧ m.2.depth < maxDepth) :
    Reads [] ((envelope.reader maxDepth).run (Value.object ((k, v) :: ms)).chars)
      (envelope.ofValue (.object ms)) := by
  have hskip : (envelope.member 126 envelope.empty k).run
      (':' :: (v.chars ++ (Value.membersChars ms ++ []))) =
        .ok (envelope.empty, Value.membersChars ms ++ []) := by
    simp only [Record.member, hk, Reader.afterColon_run, Reader.map_run,
      skip_written hv (membersChars_ends ms [])]
    rfl
  have hmembers : Reads [] (membersInto (envelope.member 126) envelope.empty true
      (Value.objectBody ((k, v) :: ms) ++ [])) (envelope.collect envelope.empty ms) := by
    rw [membersInto_entry (nextKey_true k v ms []) (key_written k _), hskip,
      envelope.collect_eq_foldlM]
    exact membersInto_reads (fun m hm _ _ hr => envelope.member_reads envelope_faithful
      (hms m hm).1 (Nat.le_of_lt_succ (hms m hm).2) hr) _ _
  rw [List.append_nil] at hmembers
  rw [chars_object]
  exact hmembers.checked envelope.build

/-- A member that is not known does not change what a line reads as. -/
theorem readChars_extended (hk : envelope.field? k = none) (hv : v.Regular) (hr : r.Regular) :
    Response.readChars (Value.object (extendedMembers k v r hr.id)).chars =
      r.toEnvelope.response := by
  have hrun := envelope_run_unknown hk hv (envelopeMembers_regular r.id hr.id r.payloadChars)
  have hparse : envelope.parse (Value.object (extendedMembers k v r hr.id)).chars =
      .ok r.toEnvelope :=
    hrun.whole.of_ok (envelope_ofValue r.id hr.id r.payloadChars)
  simp [Response.readChars, readEnvelope, trim_object, hparse, Except.mapError, Except.bind]

theorem extendedMembers_regular (hv : v.Regular) (hr : r.Regular) :
    ∀ m ∈ extendedMembers k v r hr.id, m.2.Regular := by
  intro m hm
  rcases List.mem_cons.mp hm with rfl | hm
  · exact hv
  · exact (envelopeMembers_regular r.id hr.id r.payloadChars m hm).1

theorem extendedChars_printable (hv : v.Regular) (hr : r.Regular) :
    ∀ c ∈ (Value.object (extendedMembers k v r hr.id)).chars, 0x20 ≤ c.toNat :=
  objectChars_printable fun m hm => (extendedMembers_regular hv hr m hm).chars_printable

/-- No value is read off a text with a member that nests too deep. -/
theorem value_extended_tooDeep (hv : v.Regular) (hd : 126 < v.depth) (hr : r.Regular) :
    ∃ f, (value maxDepth).run (Value.object (extendedMembers k v r hr.id)).chars = .error f := by
  have hms := extendedMembers_regular (k := k) hv hr
  have hreads := value_object_reads (fun m hm _ hends => value_reads (hms m hm) 126 hends) []
  have hdepth : ¬ Value.membersDepth (extendedMembers k v r hr.id) ≤ 126 := by
    intro hle
    exact Nat.not_le.mpr hd (membersDepth_le.mp hle (k, v) List.mem_cons_self)
  rw [if_neg hdepth, List.append_nil] at hreads
  obtain ⟨f, hf, -⟩ := hreads
  exact ⟨f, hf⟩

/-- A line that reads as a response by itself reads as that response, and as nothing else, when it
is a frame. -/
theorem single_line_read_by_frame (line : String) (q : Response) (hn : '\n' ∉ line.toList)
    (h : Response.read line = .ok q) : readFrame line = [.ok q] :=
  readFrameChars_line hn h

/-- A line with an unknown member that nests too deep for a value. -/
def deepLine : String :=
  String.ofList (Value.object (extendedMembers "x" (nested 127) (nestedResponse 126)
    (nestedResponse_regular 126).id)).chars

/-- A line no value is read off, which still reads as a response, by itself and as a frame. -/
theorem deep_line_read_by_frame :
    (∃ f, (value maxDepth).run deepLine.toList = .error f) ∧
    '\n' ∉ deepLine.toList ∧ Response.read deepLine = .ok (nestedResponse 126) ∧
    readFrame deepLine = [.ok (nestedResponse 126)] := by
  have hr := nestedResponse_regular 126
  have hdepth : 126 < (nested 127).depth := Nat.lt_of_lt_of_eq (by decide) (nested_depth 127).symm
  have hn : '\n' ∉ deepLine.toList := by
    intro hm
    rw [deepLine, String.toList_ofList] at hm
    exact absurd (extendedChars_printable (nested_regular 127) hr _ hm) (by decide)
  have hread : Response.read deepLine = .ok (nestedResponse 126) := by
    rw [Response.read, deepLine, String.toList_ofList,
      readChars_extended (by decide) (nested_regular 127) hr]
    exact Response.envelope_response hr (Nat.le_of_eq (nested_depth 126))
  refine ⟨?_, hn, hread, single_line_read_by_frame deepLine _ hn hread⟩
  rw [deepLine, String.toList_ofList]
  exact value_extended_tooDeep (nested_regular 127) hdepth hr

end Switchboard.Message
