import Mathlib.Algebra.Group.Nat.Defs
import Switchboard.Proofs.Json.Record
import Switchboard.Message.Reader
import Switchboard.Message.Writer

namespace Switchboard.Message

open Json

theorem value_reads_any (d : Nat) (v : Value) (rest : List Char) (h : v.Regular) (hd : v.depth ≤ d)
    (hr : continuesNumber rest = false) :
    Reads rest ((value d).run (v.chars ++ rest)) (.ok v) :=
  value_written h hd hr

theorem envelope_faithful : ∀ f ∈ envelope.fields, f.Faithful := by
  intro f hf
  simp only [envelope, List.mem_cons, List.not_mem_nil, or_false] at hf
  rcases hf with rfl | rfl
  · exact .of_reads (fun _ _ _ h _ hr => unsigned_reads h hr) (fun _ _ => rfl) fun _ _ => rfl
  · exact .of_reads value_reads_any (fun _ _ => rfl) fun _ _ => rfl

theorem answer_faithful : ∀ f ∈ answer.fields, f.Faithful := by
  intro f hf
  simp only [answer, List.mem_cons, List.not_mem_nil, or_false] at hf
  rcases hf with rfl | rfl | rfl
  · exact .of_reads (fun _ _ _ h _ hr => truth_reads h hr) (fun _ _ => rfl) fun _ _ => rfl
  · exact .of_reads value_reads_any (fun _ _ => rfl) fun _ _ => rfl
  · exact .of_reads (fun _ _ _ h _ hr => optionalText_reads h hr) (fun _ _ => rfl) fun _ _ => rfl

theorem request_faithful : ∀ f ∈ request.fields, f.Faithful := by
  intro f hf
  simp only [request, List.mem_cons, List.not_mem_nil, or_false] at hf
  rcases hf with rfl | rfl | rfl <;>
    exact .of_reads (fun _ _ _ h _ hr => text_reads h hr) (fun _ _ => rfl) fun _ _ => rfl

theorem flatten_intersperse (sep x : List α) (xs : List (List α)) :
    (List.intersperse sep (x :: xs)).flatten = x ++ xs.flatMap (sep ++ ·) := by
  induction xs generalizing x with
  | nil => simp
  | cons y ys ih => rw [List.intersperse_cons_cons, List.flatten_cons, List.flatten_cons, ih]; simp

/-- Members are written one by one, each behind a comma. -/
theorem membersChars_eq (ms : List (String × Value)) :
    Value.membersChars ms =
      ms.flatMap (fun m => ',' :: (stringChars m.1.toList ++ ':' :: m.2.chars)) ++ ['}'] := by
  induction ms with
  | nil => rfl
  | cons m ms ih => simp [Value.membersChars, ih]

/-- A message is written as the object with its members, in the order given. -/
theorem objectChars_values (ms : List (String × Value)) :
    objectChars (ms.map fun m => (m.1, m.2.chars)) = (Value.object ms).chars := by
  rw [chars_object]
  cases ms with
  | nil => rfl
  | cons m ms =>
    simp [objectChars, Value.objectBody, membersChars_eq, flatten_intersperse, List.flatMap_map]

def envelopeMembers (id : Id) (hid : id < 2 ^ 64) (payload : List Char) : List (String × Value) :=
  [("request_id", .number (.integer (Integer.ofNat id hid))),
    ("payload", .string (String.ofList payload))]

theorem envelopeChars_eq (id : Id) (hid : id < 2 ^ 64) (payload : List Char) :
    envelopeChars id payload = (Value.object (envelopeMembers id hid payload)).chars := by
  have hnat : intChars id = natChars id := if_neg (by omega)
  rw [← objectChars_values]
  simp [envelopeChars, envelopeMembers, Value.chars, Number.chars, Integer.ofNat, hnat]

theorem envelopeMembers_regular (id : Id) (hid : id < 2 ^ 64) (payload : List Char) :
    ∀ m ∈ envelopeMembers id hid payload, m.2.Regular ∧ m.2.depth < maxDepth := by
  intro m hm
  simp only [envelopeMembers, List.mem_cons, List.not_mem_nil, or_false] at hm
  rcases hm with rfl | rfl
  · exact ⟨.integer _, by simp [Value.depth, maxDepth]⟩
  · exact ⟨.string _, by simp [Value.depth, maxDepth]⟩

theorem unsignedOf_ofNat (n : Nat) (h : n < 2 ^ 64) :
    unsignedOf (.number (.integer (Integer.ofNat n h))) = .ok n := by
  simp [unsignedOf, wordOfNumber, Integer.toNat?, Integer.ofNat]

/-- The members of a message convert to its id and its payload, still in a string. -/
theorem envelope_ofValue (id : Id) (hid : id < 2 ^ 64) (payload : List Char) :
    envelope.ofValue (.object (envelopeMembers id hid payload)) =
      .ok ⟨id, .string (String.ofList payload)⟩ := by
  simp [envelope, Record.ofValue, Record.collect, Record.field?, envelopeMembers, unsignedOf_ofNat]
  rfl

/-- The envelope of a message reads back. -/
theorem readEnvelope_written (id : Id) (hid : id < 2 ^ 64) (payload : List Char) :
    readEnvelope (envelopeChars id payload) = .ok ⟨id, .string (String.ofList payload)⟩ := by
  have htrim : Text.trim (envelopeChars id payload) = envelopeChars id payload := by
    rw [envelopeChars_eq id hid, trim_object]
  have hparse : envelope.parse (envelopeChars id payload) =
      .ok ⟨id, .string (String.ofList payload)⟩ := by
    have h := envelope.parse_object_agrees envelope_faithful (envelopeMembers_regular id hid payload)
    rwa [envelope_ofValue, ← envelopeChars_eq] at h
  simp [readEnvelope, htrim, hparse, Except.mapError]

/-- The text of a message has no control characters, whatever its payload. -/
theorem envelopeChars_printable (id : Id) (payload : List Char) :
    ∀ c ∈ envelopeChars id payload, 0x20 ≤ c.toNat := by
  have ht : envelopeChars id payload =
      '{' :: (stringChars "request_id".toList ++ ':' :: (natChars id ++
        ',' :: (stringChars "payload".toList ++ ':' :: (stringChars payload ++ ['}'])))) := by
    simp [envelopeChars, objectChars]
  rw [ht]
  simp only [List.forall_mem_cons, List.forall_mem_append]
  exact ⟨by decide, stringChars_printable _, by decide, natChars_printable id, by decide,
    stringChars_printable _, by decide, stringChars_printable payload, by decide, nofun⟩

end Switchboard.Message
