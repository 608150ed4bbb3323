import Switchboard.Proofs.Message.Envelope

namespace Switchboard.Message

open Json

variable {r : Response} {rest : List Char}

/-- A response that can be written without loss: its id is a word of 64 bits and its result is
regular. -/
structure Response.Regular (r : Response) : Prop where
  id : r.id < 2 ^ 64
  result : r.result.Regular

def Response.payloadMembers (r : Response) : List (String × Value) :=
  [("success", .boolean r.success), ("result", r.result), ("error", .string r.error)]

def Response.toEnvelope (r : Response) : Envelope := ⟨r.id, .string (String.ofList r.payloadChars)⟩

theorem Response.payloadChars_eq (r : Response) :
    r.payloadChars = (Value.object r.payloadMembers).chars := by
  rw [← objectChars_values]
  simp [Response.payloadChars, Response.payloadMembers, Value.chars]

theorem answer_ofValue (r : Response) :
    answer.ofValue (.object r.payloadMembers) = .ok ⟨r.success, r.result, r.error⟩ := by
  simp [answer, Record.ofValue, Record.collect, Record.field?, Response.payloadMembers, truthOf,
    optionalTextOf, textOf]
  rfl

/-- The payload of a response reads back if its result nests no deeper than allowed inside it. -/
theorem answer_parse (h : r.Regular) (hd : r.result.depth ≤ 126) :
    answer.parse r.payloadChars = .ok ⟨r.success, r.result, r.error⟩ := by
  have hms : ∀ m ∈ r.payloadMembers, m.2.Regular ∧ m.2.depth < maxDepth := by
    intro m hm
    simp only [Response.payloadMembers, List.mem_cons, List.not_mem_nil, or_false] at hm
    rcases hm with rfl | rfl | rfl
    · exact ⟨.boolean _, by simp [Value.depth, maxDepth]⟩
    · exact ⟨h.result, Nat.lt_succ_of_le hd⟩
    · exact ⟨.string _, by simp [Value.depth, maxDepth]⟩
  have hparse : Agrees (answer.parse r.payloadChars) (answer.ofValue (.object r.payloadMembers)) := by
    rw [r.payloadChars_eq]
    exact answer.parse_object_agrees answer_faithful hms
  rwa [answer_ofValue] at hparse

theorem answer_success_reads (b : Bool) (hr : continuesNumber rest = false) :
    (answer.member 126 answer.empty "success").run (':' :: ((Value.boolean b).chars ++ rest)) =
      .ok ({ success := some b }, rest) := by
  have hreads : Reads rest
      ((answer.member 126 answer.empty "success").run (':' :: ((Value.boolean b).chars ++ rest)))
      (answer.enter answer.empty ("success", .boolean b)) :=
    answer.member_reads (m := ("success", .boolean b)) answer_faithful (.boolean b) (Nat.zero_le _) hr
  have henter : answer.enter answer.empty ("success", .boolean b) = .ok { success := some b } := by
    simp [Record.enter, Record.field?, answer, truthOf, Except.map]
  rwa [henter] at hreads

theorem answer_result_tooDeep {v : Value} (draft : AnswerDraft) (hdraft : draft.result = none)
    (h : v.Regular) (hd : 126 < v.depth) (hr : continuesNumber rest = false) :
    ∃ f, (answer.member 126 draft "result").run (':' :: (v.chars ++ rest)) = .error f ∧
      f.cause = .tooDeep := by
  obtain ⟨f, hf, hc⟩ := value_tooDeep h hd hr
  refine ⟨f, ?_, hc⟩
  have hmember : answer.member 126 draft "result" =
      ((value 126).map fun v => { draft with result := some v }).afterColon := by
    simp [Record.member, Record.field?, answer, hdraft]
  rw [hmember, Reader.afterColon_run, Reader.map_run, hf]
  rfl

/-- The members before the result are read, and the reading ends with the fault of the result. -/
theorem answer_parse_tooDeep (h : r.Regular) (hd : 126 < r.result.depth) :
    ∃ f, answer.parse r.payloadChars = .error f ∧ f.cause = .tooDeep := by
  obtain ⟨f, hf, hc⟩ := answer_result_tooDeep { success := some r.success } rfl h.result hd
    (membersChars_ends [("error", .string r.error)] [])
  refine ⟨f, ?_, hc⟩
  have hmembers : membersInto (answer.member 126) answer.empty true
      (Value.objectBody r.payloadMembers ++ []) = .error f := by
    rw [Response.payloadMembers, membersInto_entry (nextKey_true ..) (key_written ..),
      answer_success_reads _ (membersChars_ends ..)]
    simp only
    rw [membersInto_entry (nextKey_false ..) (key_written ..), hf]
  have hrun : (answer.reader maxDepth).run r.payloadChars = .error f := by
    have hchecked : checked answer.build (membersInto (answer.member 126) answer.empty true
        (Value.objectBody r.payloadMembers ++ [])) = .error f := by
      rw [hmembers]
      rfl
    rw [List.append_nil] at hchecked
    rw [r.payloadChars_eq, chars_object]
    exact hchecked
  rw [Record.parse, Reader.whole, hrun]

theorem Response.chars_eq (r : Response) (hid : r.id < 2 ^ 64) :
    r.chars = (Value.object (envelopeMembers r.id hid r.payloadChars)).chars :=
  envelopeChars_eq r.id hid r.payloadChars

/-- A single response reads as its envelope does. -/
theorem Response.read_written (h : r.Regular) : Response.read r.write = r.toEnvelope.response := by
  rw [Response.read, Response.write, String.toList_ofList, Response.readChars, Response.chars,
    readEnvelope_written r.id h.id, Except.bind, Response.toEnvelope]

/-- A response is what its envelope holds. -/
theorem Response.envelope_response (h : r.Regular) (hd : r.result.depth ≤ 126) :
    r.toEnvelope.response = .ok r := by
  simp [Envelope.response, Response.toEnvelope, readPayload, answer_parse h hd, Except.mapError]

/-- The payload of a response that nests too deep is refused under the id of the response. -/
theorem Response.envelope_tooDeep (h : r.Regular) (hd : 126 < r.result.depth) :
    ∃ place, r.toEnvelope.response =
      .error (.invalidPayload r.id (.json ⟨.tooDeep, some place⟩)) := by
  obtain ⟨f, hf, hc⟩ := answer_parse_tooDeep h hd
  refine ⟨f.place r.payloadChars, ?_⟩
  simp [Envelope.response, Response.toEnvelope, readPayload, hf, Except.mapError, Fault.refusal, hc]

end Switchboard.Message
