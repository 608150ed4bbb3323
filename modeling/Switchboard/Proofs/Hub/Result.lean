import Switchboard.Proofs.Json.Record
import Switchboard.Hub.Result

namespace Switchboard.Hub

open Json (Value)
open Message (Action)

variable {action : Action} {v : Value} {read : Value → Except Json.Cause (List α)}

theorem parse_chars (h : v.Regular) (hd : v.depth ≤ Json.maxDepth) :
    Json.parse v.chars = .ok v := by
  have hreads : Json.Reads [] ((Json.value Json.maxDepth).run (v.chars ++ [])) (.ok v) :=
    Json.value_written h hd rfl
  rw [List.append_nil] at hreads
  exact hreads.whole

theorem parse_chars_tooDeep (h : v.Regular) (hd : Json.maxDepth < v.depth) :
    ∃ f, Json.parse v.chars = .error f ∧ f.cause = .tooDeep := by
  have hends : Json.continuesNumber [] = false := rfl
  have hreads : Json.Reads [] ((Json.value Json.maxDepth).run (v.chars ++ [])) (.error .tooDeep) := by
    obtain ⟨f, hf, hc⟩ := Json.value_tooDeep h hd hends
    exact ⟨f, hf, hc ▸ .same _⟩
  rw [List.append_nil] at hreads
  obtain ⟨f, hf, hm⟩ := hreads.whole
  exact ⟨f, hf, hm.eq_tooDeep⟩

theorem unwrap_compact (h : v.Regular) (hd : v.depth ≤ Json.maxDepth) (action : Action) :
    unwrap action (.string v.compact) = .ok v := by
  rw [unwrap, Value.compact, String.toList_ofList, parse_chars h hd]
  rfl

theorem unwrap_native (hs : ∀ s, v ≠ .string s) (action : Action) : unwrap action v = .ok v := by
  cases v with
  | string s => exact absurd rfl (hs s)
  | _ => rfl

/-- A value that is not a string reads as its text in a string does. -/
theorem compound_compact (h : v.Regular) (hs : ∀ s, v ≠ .string s) (hd : v.depth ≤ Json.maxDepth)
    (action : Action) :
    compound read action (.string v.compact) = compound read action v := by
  rw [compound, compound, unwrap_compact h hd, unwrap_native hs]

theorem compound_null : compound read action .null = .ok [] := rfl

theorem compound_native (hs : ∀ s, v ≠ .string s) (hn : v ≠ .null) :
    compound read action v = (read v).mapError fun c => ⟨action, c.refusal.message⟩ := by
  rw [compound, unwrap_native hs]
  cases v with
  | null => exact absurd rfl hn
  | _ => rfl

/-- The texts a value stands for: `null` for none, and a list of strings for those strings. -/
inductive IsTexts : Value → List String → Prop
  | null : IsTexts .null []
  | array (ts : List String) : IsTexts (.array (ts.map .string)) ts

/-- The entries a value stands for: `null` for none, and an object of strings for its members. -/
inductive IsEntries : Value → List (String × String) → Prop
  | null : IsEntries .null []
  | object (es : List (String × String)) :
      IsEntries (.object (es.map fun e => (e.1, .string e.2))) es

theorem textOf_ok_iff {s : String} : Json.textOf v = .ok s ↔ v = .string s := by
  cases v <;> simp [Json.textOf]

theorem convertAll_ok_iff {vs : List Value} {ts : List String} :
    Json.convertAll Json.textOf vs = .ok ts ↔ vs = ts.map .string := by
  induction vs generalizing ts with
  | nil => cases ts <;> simp [Json.convertAll]
  | cons v vs ih =>
    rw [Json.convertAll]
    cases hv : Json.textOf v with
    | error c => cases ts <;> simp [← textOf_ok_iff, hv]
    | ok s =>
      rw [textOf_ok_iff] at hv
      subst hv
      cases hvs : Json.convertAll Json.textOf vs with
      | error c => cases ts <;> simp [Except.map, ← ih, hvs]
      | ok rest => cases ts <;> simp [Except.map, ← ih, hvs]

theorem convertMembers_ok_iff {ms : List (String × Value)} {es : List (String × String)} :
    Json.convertMembers Json.textOf ms = .ok es ↔
      ms = es.map fun e => (e.1, .string e.2) := by
  induction ms generalizing es with
  | nil => cases es <;> simp [Json.convertMembers]
  | cons m ms ih =>
    obtain ⟨k, v⟩ := m
    rw [Json.convertMembers]
    cases hv : Json.textOf v with
    | error c => cases es <;> simp [← textOf_ok_iff, hv]
    | ok s =>
      rw [textOf_ok_iff] at hv
      subst hv
      cases hms : Json.convertMembers Json.textOf ms with
      | error c => cases es <;> simp [Except.map, ← ih, hms]
      | ok rest => cases es <;> simp [Except.map, ← ih, hms, Prod.ext_iff]

def Accepts (read : Value → Except Json.Cause (List α)) (fits : Value → List α → Prop) : Prop :=
  ∀ {v parts}, v ≠ .null → (read v = .ok parts ↔ fits v parts)

theorem accepts_texts : Accepts Json.textsOf IsTexts := by
  intro v ts hn
  constructor
  · intro h
    cases v with
    | array vs =>
      obtain rfl := convertAll_ok_iff.mp h
      exact .array ts
    | _ => contradiction
  · rintro (_ | ts)
    · contradiction
    · exact convertAll_ok_iff.mpr rfl

theorem accepts_entries : Accepts Json.textMapOf IsEntries := by
  intro v es hn
  constructor
  · intro h
    cases v with
    | object ms =>
      obtain rfl := convertMembers_ok_iff.mp h
      exact .object es
    | _ => contradiction
  · rintro (_ | es)
    · contradiction
    · exact convertMembers_ok_iff.mpr rfl

section Accepted

variable {fits : Value → List α → Prop}

/-- What a value stands for is what is read off it. -/
theorem compound_of_fits (ha : Accepts read fits) (hnull : ∀ {parts}, fits .null parts → parts = [])
    (hs : ∀ s, v ≠ .string s) {parts : List α} (h : fits v parts) :
    compound read action v = .ok parts := by
  by_cases hn : v = .null
  · subst hn
    rw [hnull h, compound_null]
  · rw [compound_native hs hn, (ha hn).mpr h]
    rfl

/-- A value that stands for nothing is refused in the name of the action. -/
theorem compound_of_not_fits (ha : Accepts read fits) (hnull : fits .null [])
    (hs : ∀ s, v ≠ .string s) (h : ∀ parts, ¬ fits v parts) :
    ∃ why, compound read action v = .error ⟨action, why⟩ := by
  have hn : v ≠ .null := fun he => h [] (he ▸ hnull)
  rw [compound_native hs hn]
  cases hr : read v with
  | error c => exact ⟨_, rfl⟩
  | ok parts => exact absurd ((ha hn).mp hr) (h parts)

end Accepted

theorem texts_of_isTexts {ts : List String} (h : IsTexts v ts) : texts action v = .ok ts :=
  compound_of_fits accepts_texts (fun hnull => by cases hnull; rfl) (by cases h <;> simp) h

theorem entries_of_isEntries {es : List (String × String)} (h : IsEntries v es) :
    entries action v = .ok es :=
  compound_of_fits accepts_entries (fun hnull => by cases hnull; rfl) (by cases h <;> simp) h

/-- The text of a value in a string reads as the value itself, whatever the action: to the texts or
entries it stands for, or else to one refusal that names the action. -/
theorem embedded_reads_as_native (action : Action) (h : v.Regular) (hs : ∀ s, v ≠ .string s)
    (hd : v.depth ≤ 127) :
    (texts action (.string v.compact) = texts action v ∧
      (∀ ts, IsTexts v ts → texts action v = .ok ts) ∧
      ((∀ ts, ¬ IsTexts v ts) → ∃ why, texts action v = .error ⟨action, why⟩)) ∧
    (entries action (.string v.compact) = entries action v ∧
      (∀ es, IsEntries v es → entries action v = .ok es) ∧
      ((∀ es, ¬ IsEntries v es) → ∃ why, entries action v = .error ⟨action, why⟩)) := by
  refine ⟨⟨compound_compact h hs hd action, fun ts => texts_of_isTexts, ?_⟩,
    ⟨compound_compact h hs hd action, fun es => entries_of_isEntries, ?_⟩⟩
  · exact compound_of_not_fits accepts_texts .null hs
  · exact compound_of_not_fits accepts_entries .null hs

theorem embedded_reads_as_native_members :
    let v := Value.object ([("", "null"), ("k\n", "[\"v\"]")].map fun e => (e.1, .string e.2))
    (v.Regular ∧ (∀ s, v ≠ .string s) ∧ v.depth ≤ 127) ∧
      entries .list (.string v.compact) = .ok [("", "null"), ("k\n", "[\"v\"]")] ∧
      ∃ why, texts .list (.string v.compact) = .error ⟨.list, why⟩ := by
  intro v
  have h : v.Regular := by
    refine .of_keys ?_ (by decide)
    simp only [List.map_cons, List.map_nil, List.forall_mem_cons]
    exact ⟨.string _, .string _, by simp⟩
  have hs : ∀ s, v ≠ .string s := by simp [v]
  have hd : v.depth ≤ 127 := by decide
  have hnone : ∀ ts, ¬ IsTexts v ts := by
    intro ts ht
    change IsTexts (.object _) ts at ht
    cases ht
  obtain ⟨⟨htexts, -, hrefused⟩, hentries, hread, -⟩ := embedded_reads_as_native .list h hs hd
  exact ⟨⟨h, hs, hd⟩, hentries.trans (hread _ (.object _)), htexts ▸ hrefused hnone⟩

/-- A text that nests deeper than is read is refused for that, though its value would be read. -/
theorem embedded_tooDeep (action : Action) (h : v.Regular) (hd : 127 < v.depth) :
    ∃ place, let why := Json.Refusal.message ⟨.tooDeep, some place⟩
      texts action (.string v.compact) = .error ⟨action, why⟩ ∧
        entries action (.string v.compact) = .error ⟨action, why⟩ := by
  obtain ⟨f, hf, hc⟩ := parse_chars_tooDeep h hd
  have hunwrap : unwrap action (.string v.compact) =
      .error ⟨action, Json.Refusal.message ⟨.tooDeep, some (f.place v.chars)⟩⟩ := by
    rw [unwrap, Value.compact, String.toList_ofList, hf, ← hc]
    rfl
  have hcompound {α : Type} (read : Value → Except Json.Cause (List α)) :
      compound read action (.string v.compact) =
        .error ⟨action, Json.Refusal.message ⟨.tooDeep, some (f.place v.chars)⟩⟩ := by
    rw [compound, hunwrap]
  exact ⟨f.place v.chars, hcompound _, hcompound _⟩

end Switchboard.Hub
