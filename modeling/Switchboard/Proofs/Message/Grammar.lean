import Switchboard.Proofs.Json.Slots
import Switchboard.Proofs.Message.Envelope

namespace Switchboard.Message

open Json

inductive IsId : Value → Id → Prop
  | intro (id : Id) (hid : id < 2 ^ 64) : IsId (.number (.integer (.ofNat id hid))) id

/-- The values that are envelopes. -/
inductive IsEnvelope : Value → Envelope → Prop
  | object {ms : List (String × Value)} {idValue : Value} {id : Id} {payload : Option Value}
      (hid : IsId idValue id)
      (ids : under "request_id" "RequestId" ms = [idValue])
      (payloads : Given ms "payload" "Payload" (fun v => v) payload) :
      IsEnvelope (.object ms) ⟨id, payload.getD .null⟩
  | alone {idValue : Value} {id : Id} (hid : IsId idValue id) :
      IsEnvelope (.array [idValue]) ⟨id, .null⟩
  | list {idValue : Value} {id : Id} (hid : IsId idValue id) (payload : Value) :
      IsEnvelope (.array [idValue, payload]) ⟨id, payload⟩

/-- The values that are payloads of responses. -/
inductive IsAnswer : Value → Answer → Prop
  | object {ms : List (String × Value)} {success : Option Bool} {result : Option Value}
      {error : Option (Option String)}
      (successes : Given ms "success" "Success" .boolean success)
      (results : Given ms "result" "Result" (fun v => v) result)
      (errors : Given ms "error" "Error" textOrNull error) :
      IsAnswer (.object ms) ⟨success.getD false, result.getD .null, (error.getD none).getD ""⟩
  | empty : IsAnswer (.array []) ⟨false, .null, ""⟩
  | success (b : Bool) : IsAnswer (.array [.boolean b]) ⟨b, .null, ""⟩
  | result (b : Bool) (v : Value) : IsAnswer (.array [.boolean b, v]) ⟨b, v, ""⟩
  | error (b : Bool) (v : Value) (s : Option String) :
      IsAnswer (.array [.boolean b, v, textOrNull s]) ⟨b, v, s.getD ""⟩

/-- What the payload of an envelope stands for: an object for itself, and a string for the value
whose text it is. -/
inductive Carries : Value → Value → Prop
  | object (ms : List (String × Value)) : Carries (.object ms) (.object ms)
  | text {v : Value} (h : v.Regular) (hd : v.depth ≤ 127) : Carries (.string v.compact) v

variable {v : Value}

theorem unsignedOf_iff (v : Value) (id : Id) : unsignedOf v = .ok id ↔ IsId v id := by
  constructor
  · intro h
    cases v with
    | null | boolean | string | array | object => cases h
    | number n =>
      cases n with
      | float => cases h
      | integer n =>
        simp only [unsignedOf, wordOfNumber, Integer.toNat?] at h
        by_cases hn : 0 ≤ n.val
        · simp only [hn, if_true, Except.ok.injEq] at h
          subst h
          have hid : n.val.toNat < 2 ^ 64 := by
            have := n.upper
            omega
          have hval : n = .ofNat n.val.toNat hid := by
            cases n
            simp [Integer.ofNat, Int.toNat_of_nonneg hn]
          rw [hval]
          exact .intro _ hid
        · simp [hn] at h
  · rintro ⟨id, hid⟩
    exact unsignedOf_ofNat id hid

/-- The two fields of an envelope are filled apart from each other. -/
theorem envelope_enter (d : EnvelopeDraft) (m : String × Value) :
    envelope.enter d m =
      (fillSlot "request_id" "RequestId" unsignedOf d.id m).bind fun id =>
        (fillSlot "payload" "Payload" .ok d.payload m).map fun payload => ⟨id, payload⟩ := by
  obtain ⟨key, v⟩ := m
  by_cases hid : key = "request_id" ∨ key = "RequestId"
  · rcases hid with rfl | rfl <;> simp [Record.enter, Record.field?, envelope, fillSlot] <;>
      cases d.id <;> cases unsignedOf v <;> rfl
  by_cases hpayload : key = "payload" ∨ key = "Payload"
  · rcases hpayload with rfl | rfl <;> simp [Record.enter, Record.field?, envelope, fillSlot] <;>
      cases d.payload <;> rfl
  · have hf : envelope.field? key = none := by
      simp [Record.field?, envelope, eq_comm (b := key), not_or.mp hid, not_or.mp hpayload]
    simp [Record.enter, hf, fillSlot, hid, hpayload, Except.bind, Except.map]

/-- Members fill an envelope just if each field is given once at most, with a value of its type. -/
theorem envelope_collect_iff (d d' : EnvelopeDraft) (ms : List (String × Value)) :
    envelope.collect d ms = .ok d' ↔
      Taken unsignedOf d.id (under "request_id" "RequestId" ms) d'.id ∧
      Taken .ok d.payload (under "payload" "Payload" ms) d'.payload := by
  rw [Record.collect_eq_foldlM, ← foldlM_fillSlot_iff, ← foldlM_fillSlot_iff]
  induction ms generalizing d with
  | nil =>
    cases d
    cases d'
    simp [pure, Except.pure]
  | cons m ms ih =>
    simp only [List.foldlM_cons, envelope_enter]
    cases fillSlot "request_id" "RequestId" unsignedOf d.id m with
    | error c => simp [bind, Except.bind]
    | ok id =>
      cases fillSlot "payload" "Payload" .ok d.payload m with
      | error c => simp [bind, Except.bind, Except.map]
      | ok payload => exact ih ⟨id, payload⟩

theorem envelope_object_iff (ms : List (String × Value)) (e : Envelope) :
    envelope.ofValue (.object ms) = .ok e ↔ IsEnvelope (.object ms) e := by
  rw [Record.ofValue, bind_eq_ok]
  simp only [envelope_collect_iff]
  constructor
  · rintro ⟨⟨id, payload⟩, ⟨hids, hpayloads⟩, hbuild⟩
    generalize hu : under "request_id" "RequestId" ms = ids at hids
    cases hids with
    | keep => cases hbuild
    | take hid =>
      cases hbuild
      exact .object ((unsignedOf_iff _ _).mp hid) hu ((Taken.none_iff ok_iff).mp hpayloads)
  · rintro (@⟨_, _, id, payload, hid, ids, payloads⟩)
    refine ⟨⟨some id, payload⟩, ⟨?_, (Taken.none_iff ok_iff).mpr payloads⟩, rfl⟩
    rw [ids]
    exact .take ((unsignedOf_iff _ _).mpr hid)

/-- A list fills an envelope with its id and its payload, which may be missing, and nothing more. -/
theorem envelope_list (v : Value) (vs : List Value) :
    envelope.ofValue (.array (v :: vs)) = (unsignedOf v).bind fun id =>
      match vs with
      | [] => .ok ⟨id, .null⟩
      | [payload] => .ok ⟨id, payload⟩
      | _ => .error (.tooLong (vs.length + 1)) := by
  match vs with
  | [] | [_] | _ :: _ :: _ =>
    cases hv : unsignedOf v <;>
      simp [envelope, Record.ofValue, Record.fill, Record.tooShort, hv, Except.map, Except.bind]

theorem envelope_array_iff (vs : List Value) (e : Envelope) :
    envelope.ofValue (.array vs) = .ok e ↔ IsEnvelope (.array vs) e := by
  cases vs with
  | nil => exact ⟨nofun, nofun⟩
  | cons v vs =>
    rw [envelope_list, bind_eq_ok]
    simp only [unsignedOf_iff]
    constructor
    · rintro ⟨id, hid, h⟩
      split at h
      · cases h
        exact .alone hid
      · cases h
        exact .list hid _
      · contradiction
    · rintro (_ | hid | hid)
      · exact ⟨_, hid, rfl⟩
      · exact ⟨_, hid, rfl⟩

/-- A value converts to an envelope just if the grammar has it so. -/
theorem envelope_ofValue_iff (v : Value) (e : Envelope) :
    envelope.ofValue v = .ok e ↔ IsEnvelope v e := by
  cases v with
  | object ms => exact envelope_object_iff ms e
  | array vs => exact envelope_array_iff vs e
  | null | boolean _ | number _ | string _ => exact ⟨nofun, nofun⟩

/-- The three fields of the payload of a response are filled apart from each other. -/
theorem answer_enter (d : AnswerDraft) (m : String × Value) :
    answer.enter d m =
      (fillSlot "success" "Success" truthOf d.success m).bind fun success =>
        (fillSlot "result" "Result" .ok d.result m).bind fun result =>
          (fillSlot "error" "Error" optionalTextOf d.error m).map fun error =>
            ⟨success, result, error⟩ := by
  obtain ⟨key, v⟩ := m
  by_cases hsuccess : key = "success" ∨ key = "Success"
  · rcases hsuccess with rfl | rfl <;> simp [Record.enter, Record.field?, answer, fillSlot] <;>
      cases d.success <;> cases truthOf v <;> rfl
  by_cases hresult : key = "result" ∨ key = "Result"
  · rcases hresult with rfl | rfl <;> simp [Record.enter, Record.field?, answer, fillSlot] <;>
      cases d.result <;> rfl
  by_cases herror : key = "error" ∨ key = "Error"
  · rcases herror with rfl | rfl <;> simp [Record.enter, Record.field?, answer, fillSlot] <;>
      cases d.error <;> cases optionalTextOf v <;> rfl
  · have hf : answer.field? key = none := by
      simp [Record.field?, answer, eq_comm (b := key), not_or.mp hsuccess, not_or.mp hresult,
        not_or.mp herror]
    simp [Record.enter, hf, fillSlot, hsuccess, hresult, herror, Except.bind, Except.map]

/-- Members fill an answer just if each field is given once at most, with a value of its type. -/
theorem answer_collect_iff (d d' : AnswerDraft) (ms : List (String × Value)) :
    answer.collect d ms = .ok d' ↔
      Taken truthOf d.success (under "success" "Success" ms) d'.success ∧
      Taken .ok d.result (under "result" "Result" ms) d'.result ∧
      Taken optionalTextOf d.error (under "error" "Error" ms) d'.error := by
  rw [Record.collect_eq_foldlM, ← foldlM_fillSlot_iff, ← foldlM_fillSlot_iff, ← foldlM_fillSlot_iff]
  induction ms generalizing d with
  | nil =>
    cases d
    cases d'
    simp [pure, Except.pure]
  | cons m ms ih =>
    simp only [List.foldlM_cons, answer_enter]
    cases fillSlot "success" "Success" truthOf d.success m with
    | error c => simp [bind, Except.bind]
    | ok success =>
      cases fillSlot "result" "Result" .ok d.result m with
      | error c => simp [bind, Except.bind]
      | ok result =>
        cases fillSlot "error" "Error" optionalTextOf d.error m with
        | error c => simp [bind, Except.bind, Except.map]
        | ok error => exact ih ⟨success, result, error⟩

theorem answer_object_iff (ms : List (String × Value)) (a : Answer) :
    answer.ofValue (.object ms) = .ok a ↔ IsAnswer (.object ms) a := by
  rw [Record.ofValue, bind_eq_ok]
  simp only [answer_collect_iff]
  constructor
  · rintro ⟨⟨success, result, error⟩, ⟨hsuccess, hresult, herror⟩, ⟨⟩⟩
    exact .object ((Taken.none_iff truthOf_iff).mp hsuccess) ((Taken.none_iff ok_iff).mp hresult)
      ((Taken.none_iff optionalTextOf_iff).mp herror)
  · rintro (@⟨_, success, result, error, hsuccess, hresult, herror⟩)
    exact ⟨⟨success, result, error⟩, ⟨(Taken.none_iff truthOf_iff).mpr hsuccess,
      (Taken.none_iff ok_iff).mpr hresult, (Taken.none_iff optionalTextOf_iff).mpr herror⟩, rfl⟩

/-- A list fills an answer with up to three fields, the first of which must be there. -/
theorem answer_list (u : Value) (vs : List Value) :
    answer.ofValue (.array (u :: vs)) = (truthOf u).bind fun b =>
      match vs with
      | [] => .ok ⟨b, .null, ""⟩
      | [v] => .ok ⟨b, v, ""⟩
      | [v, w] => (optionalTextOf w).bind fun s => .ok ⟨b, v, s.getD ""⟩
      | _ :: w :: _ => (optionalTextOf w).bind fun _ => .error (.tooLong (vs.length + 1)) := by
  match vs with
  | [] | [_] =>
    cases hu : truthOf u <;>
      simp [answer, Record.ofValue, Record.fill, Record.tooShort, hu, Except.map, Except.bind]
  | [_, w] | _ :: w :: _ :: _ =>
    cases hu : truthOf u <;> cases hw : optionalTextOf w <;>
      simp [answer, Record.ofValue, Record.fill, hu, hw, Except.map, Except.bind]

theorem answer_array_iff (vs : List Value) (a : Answer) :
    answer.ofValue (.array vs) = .ok a ↔ IsAnswer (.array vs) a := by
  cases vs with
  | nil =>
    constructor
    · rintro ⟨⟩
      exact .empty
    · rintro ⟨⟩
      rfl
  | cons u vs =>
    rw [answer_list, bind_eq_ok]
    simp only [truthOf_iff]
    constructor
    · rintro ⟨b, rfl, h⟩
      split at h
      · cases h
        exact .success b
      · cases h
        exact .result b _
      · obtain ⟨s, hs, hok⟩ := bind_eq_ok.mp h
        cases (optionalTextOf_iff _ s).mp hs
        cases hok
        exact .error b _ s
      · obtain ⟨s, -, hok⟩ := bind_eq_ok.mp h
        contradiction
    · rintro (_ | _ | _)
      · exact ⟨_, rfl, rfl⟩
      · exact ⟨_, rfl, rfl⟩
      · exact ⟨_, rfl, bind_eq_ok.mpr ⟨_, (optionalTextOf_iff _ _).mpr rfl, rfl⟩⟩

/-- A value converts to an answer just if the grammar has it so. -/
theorem answer_ofValue_iff (v : Value) (a : Answer) :
    answer.ofValue v = .ok a ↔ IsAnswer v a := by
  cases v with
  | object ms => exact answer_object_iff ms a
  | array vs => exact answer_array_iff vs a
  | null | boolean _ | number _ | string _ => exact ⟨nofun, nofun⟩

theorem readEnvelope_regular (h : v.Regular) :
    readEnvelope v.chars =
      (envelope.parse v.chars).mapError fun f => .invalidEnvelope (f.refusal v.chars) := by
  rw [readEnvelope, h.trim_chars]

/-- What the grammar has for an envelope is read off its text as that. -/
theorem readEnvelope_of_isEnvelope {e : Envelope} (h : v.Regular) (hd : v.depth ≤ 127)
    (he : IsEnvelope v e) : readEnvelope v.chars = .ok e := by
  have hparse := (envelope.parse_agrees envelope_faithful h hd).of_ok ((envelope_ofValue_iff v e).mpr he)
  rw [readEnvelope_regular h, hparse]
  rfl

theorem readEnvelope_of_not_isEnvelope (h : v.Regular) (hd : v.depth ≤ 127)
    (hne : ∀ e, ¬ IsEnvelope v e) : ∃ why, readEnvelope v.chars = .error (.invalidEnvelope why) := by
  obtain ⟨f, hf⟩ := (envelope.parse_agrees envelope_faithful h hd).of_not_ok
    fun e he => hne e ((envelope_ofValue_iff v e).mp he)
  rw [readEnvelope_regular h, hf]
  exact ⟨_, rfl⟩

/-- A payload is read through its string, if it is one. -/
theorem readPayload_of_isAnswer {payload : Value} {a : Answer} (hc : Carries payload v)
    (ha : IsAnswer v a) : readPayload answer payload = .ok a := by
  have hvalue := (answer_ofValue_iff v a).mpr ha
  cases hc with
  | object ms =>
    rw [readPayload, hvalue]
    rfl
  | text h hd =>
    have hparse := (answer.parse_agrees answer_faithful h hd).of_ok hvalue
    rw [readPayload, Value.compact, String.toList_ofList, hparse]
    rfl

/-- A payload that carries no answer is refused, as an object or in a string. -/
theorem readPayload_of_not_isAnswer {payload : Value} (hc : Carries payload v)
    (hna : ∀ a, ¬ IsAnswer v a) : ∃ why, readPayload answer payload = .error why := by
  have hvalue : ∀ a, answer.ofValue v ≠ .ok a := fun a ha => hna a ((answer_ofValue_iff v a).mp ha)
  cases hc with
  | object ms =>
    rw [readPayload]
    cases hv : answer.ofValue (.object ms) with
    | ok a => exact absurd hv (hvalue a)
    | error c => exact ⟨_, rfl⟩
  | text h hd =>
    obtain ⟨f, hf⟩ := (answer.parse_agrees answer_faithful h hd).of_not_ok hvalue
    rw [readPayload, Value.compact, String.toList_ofList, hf]
    exact ⟨_, rfl⟩

/-- What is read from the text of a value, by the grammar. What is no envelope is refused as one.
The payload of an envelope is refused under the id of the envelope unless it carries an answer, and
the response has the id and the answer. -/
theorem response_read_by_grammar (v : Value) (h : v.Regular) (hd : v.depth ≤ 127) :
    ((∀ e, ¬ IsEnvelope v e) → ∃ why, Response.read v.compact = .error (.invalidEnvelope why)) ∧
    ∀ e, IsEnvelope v e →
      ((∀ ms, e.payload ≠ .object ms) → (∀ s, e.payload ≠ .string s) →
        Response.read v.compact = .error (.invalidPayload e.id (.notPayload e.payload))) ∧
      ∀ w, Carries e.payload w →
        ((∀ a, ¬ IsAnswer w a) →
          ∃ why, Response.read v.compact = .error (.invalidPayload e.id why)) ∧
        ∀ a, IsAnswer w a →
          Response.read v.compact = .ok ⟨e.id, a.success, a.result, a.error⟩ := by
  rw [Response.read, Value.compact, String.toList_ofList, Response.readChars]
  refine ⟨?_, fun e he => ?_⟩
  · intro hne
    obtain ⟨why, hwhy⟩ := readEnvelope_of_not_isEnvelope h hd hne
    exact ⟨why, by rw [hwhy]; rfl⟩
  rw [readEnvelope_of_isEnvelope h hd he]
  have hresponse : (.ok e : Except Unreadable Envelope).bind Envelope.response = e.response := rfl
  rw [hresponse, Envelope.response]
  refine ⟨fun hobject hstring => ?_, fun w hw => ⟨fun hna => ?_, fun a ha => ?_⟩⟩
  · have hother : readPayload answer e.payload = .error (.notPayload e.payload) := by
      cases hp : e.payload with
      | object ms => exact absurd hp (hobject ms)
      | string s => exact absurd hp (hstring s)
      | null | boolean _ | number _ | array _ => rfl
    rw [hother]
  · obtain ⟨why, hwhy⟩ := readPayload_of_not_isAnswer hw hna
    exact ⟨why, by rw [hwhy]⟩
  · rw [readPayload_of_isAnswer hw ha]

def capitalised (payload : Value) : Value :=
  .object [("Payload", payload), ("RequestId", .number (.integer (.ofNat 5 (by decide)))),
    ("extra", .array [])]

theorem capitalised_regular {payload : Value} (h : payload.Regular) :
    (capitalised payload).Regular :=
  .of_keys (by simpa using ⟨h, .integer _, .array (List.forall_mem_nil _)⟩)
    (show ["Payload", "RequestId", "extra"].Pairwise (· < ·) by decide)

theorem capitalised_isEnvelope (payload : Value) :
    IsEnvelope (capitalised payload) ⟨5, payload⟩ :=
  have hpayload : Given [("Payload", payload), ("RequestId", .number (.integer (.ofNat 5 (by decide)))),
      ("extra", .array [])] "payload" "Payload" (fun v => v) (some payload) := by
    simp [Given, under]
  .object (.intro 5 (by decide)) (by simp [under]) hpayload

/-- A payload that spells two of its names with capitals and leaves the third to its default, and
one that has both names of a field. -/
theorem capitalised_read_by_grammar :
    Response.read (capitalised (.string (Value.object
      [("Error", .null), ("Success", .boolean true)]).compact)).compact =
      .ok ⟨5, true, .null, ""⟩ ∧
    ∃ why, Response.read (capitalised (.object
      [("Success", .boolean true), ("success", .boolean true)])).compact =
      .error (.invalidPayload 5 why) := by
  constructor
  · have hv : (Value.object [("Error", .null), ("Success", .boolean true)]).Regular :=
      .of_keys (by simpa using And.intro .null (.boolean true)) (by decide)
    have hsuccess : Given [("Error", .null), ("Success", .boolean true)] "success" "Success"
        .boolean (some true) := by simp [Given, under]
    have hresult : Given [("Error", .null), ("Success", .boolean true)] "result" "Result"
        (fun v => v) none := by simp [Given, under]
    have herror : Given [("Error", .null), ("Success", .boolean true)] "error" "Error"
        textOrNull (some none) := by simp [Given, under, textOrNull]
    exact ((response_read_by_grammar _ (capitalised_regular (.string _)) (by decide)).2 _
      (capitalised_isEnvelope _)).2 _ (.text hv (by decide)) |>.2 _
      (.object hsuccess hresult herror)
  · have hv : (Value.object [("Success", .boolean true), ("success", .boolean true)]).Regular :=
      .of_keys (by simpa using Value.Regular.boolean true) (by decide)
    refine ((response_read_by_grammar _ (capitalised_regular hv) (by decide)).2 _
      (capitalised_isEnvelope _)).2 _ (.object _) |>.1 fun a ha => ?_
    cases ha with
    | object hsuccess => exact absurd hsuccess.length_le (by decide)

end Switchboard.Message
