import Switchboard.Proofs.Message.Envelope

namespace Switchboard.Message

open Json

variable {id : Id}

def Request.members (r : Request) : List (String × Value) :=
  [("action", .string r.action), ("option_1", .string r.option1), ("option_2", .string r.option2)]

theorem Request.payloadChars_eq (r : Request) :
    r.payloadChars = (Value.object r.members).chars := by
  rw [← objectChars_values]
  simp [Request.payloadChars, Request.members, Value.chars]

theorem request_ofValue (r : Request) : request.ofValue (.object r.members) = .ok r := by
  simp [request, Record.ofValue, Record.collect, Record.field?, Request.members, textOf]
  rfl

/-- The payload of a request reads back from its string. -/
theorem readPayload_request (r : Request) :
    readPayload request (.string (String.ofList r.payloadChars)) = .ok r := by
  have hms : ∀ m ∈ r.members, m.2.Regular ∧ m.2.depth < maxDepth := by
    intro m hm
    simp only [Request.members, List.mem_cons, List.not_mem_nil, or_false] at hm
    rcases hm with rfl | rfl | rfl <;> exact ⟨.string _, by simp [Value.depth, maxDepth]⟩
  have hparse : Agrees (request.parse r.payloadChars) (.ok r) := by
    rw [r.payloadChars_eq, ← request_ofValue r]
    exact request.parse_object_agrees request_faithful hms
  have hparse : request.parse r.payloadChars = .ok r := hparse
  simp [readPayload, String.toList_ofList, hparse, Except.mapError]

theorem Request.read_write (r : Request) (hid : id < 2 ^ 64) :
    Request.read (r.write id) = .ok (id, r) := by
  have henvelope : readEnvelope (r.write id).toList =
      .ok ⟨id, .string (String.ofList r.payloadChars)⟩ := by
    rw [Request.write, String.toList_ofList]
    exact readEnvelope_written id hid r.payloadChars
  simp only [Request.read, henvelope, Except.bind, readPayload_request]

/-- A request and its id read back from their text, which is a single line without control
characters. So no two requests share a text. -/
theorem request_reads_back (r : Request) (id : Id) (hid : id < 2 ^ 64) :
    Request.read (r.write id) = .ok (id, r) ∧
    (∀ c ∈ (r.write id).toList, 0x20 ≤ c.toNat) ∧
    ∀ (s : Request) (j : Id), j < 2 ^ 64 → s.write j = r.write id → s = r ∧ j = id := by
  refine ⟨r.read_write hid, ?_, ?_⟩
  · rw [Request.write, String.toList_ofList]
    exact envelopeChars_printable id r.payloadChars
  · intro s j hj h
    have hsame : (.ok (j, s) : Except Unreadable (Id × Request)) = .ok (id, r) := by
      rw [← s.read_write hj, h, r.read_write hid]
    cases hsame
    exact ⟨rfl, rfl⟩

/-- A request whose options hold quotes, backslashes, line breaks and the text of a payload, under
the greatest id. -/
theorem awkward_request_reads_back :
    0xffffffffffffffff < 2 ^ 64 ∧
    Request.read (Request.write ⟨"SET", "a\"\\\n\x01/", "\x7b\"action\":\"GET\"\x7d"⟩
      0xffffffffffffffff) =
      .ok (0xffffffffffffffff, ⟨"SET", "a\"\\\n\x01/", "\x7b\"action\":\"GET\"\x7d"⟩) :=
  ⟨by decide, (request_reads_back _ _ (by decide)).1⟩

end Switchboard.Message
