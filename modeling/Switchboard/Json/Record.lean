import Switchboard.Json.Typed

/-!
Records of named fields. A record may be written as an object, with its fields in any order under
either of their names and other members among them, or as a list of its fields in order. It can be
read from text or from a value already read.
-/

namespace Switchboard.Json

/-- A field of a record. The fields read so far are kept in a draft. -/
structure Field (σ : Type) where
  name : String
  otherName : String
  required : Bool
  isSet : σ → Bool
  read : Nat → σ → Reader σ
  convert : σ → Value → Except Cause σ

structure Record (σ α : Type) where
  name : String
  empty : σ
  fields : List (Field σ)
  build : σ → Except Cause α

def Record.field? (r : Record σ α) (key : String) : Option (Field σ) :=
  r.fields.find? fun f => f.name == key || f.otherName == key

def closed (text : List Char) : List Char :=
  match skipSpace text with
  | '}' :: rest => rest
  | rest => rest

/-- Reads the rest of a member into a draft. Members the record does not know are passed over. -/
def Record.member (r : Record σ α) (depth : Nat) (draft : σ) (key : String) : Reader σ :=
  match r.field? key with
  | none => (skip.map fun _ => draft).afterColon
  | some f =>
    if f.isSet draft then Reader.refuse fun rest => .here (.duplicateField f.name) (closed rest)
    else (f.read depth draft).afterColon

/-- The refusal of a list that ends before the fields `fs`, the first of them at `index`. -/
def Record.tooShort (r : Record σ α) (index : Nat) (fs : List (Field σ)) : Option Cause :=
  if fs.any (·.required) then
    some (.tooShort (index + fs.findIdx (·.required)) r.name r.fields.length)
  else none

def listEnd (text : List Char) : Except Fault (List Char) :=
  match skipSpace text with
  | [] => .error (.here .unclosedList [])
  | ']' :: rest => .ok rest
  | ',' :: rest =>
    match skipSpace rest with
    | ']' :: rest => .error (.here .trailingComma rest)
    | rest => .error (.next .trailingCharacters rest)
  | rest => .error (.next .trailingCharacters rest)

def Record.positional (r : Record σ α) (depth : Nat) (index : Nat) (draft : σ) :
    List (Field σ) → List Char → Reading σ
  | [], text => (listEnd text).map (draft, ·)
  | f :: fs, text =>
    match nextItem (index = 0) text with
    | .error e => .error e
    | .ok (.done rest) =>
      match r.tooShort index (f :: fs) with
      | some c => .error (.here c rest)
      | none => .ok (draft, rest)
    | .ok (.entry item) =>
      match (f.read depth draft).run item with
      | .error e => .error e
      | .ok (draft, rest) => r.positional depth (index + 1) draft fs rest

/-- Reads a record that nests at most `depth` lists and objects, itself included. -/
def Record.run (r : Record σ α) (depth : Nat) (text : List Char) : Reading α :=
  match skipSpace text, depth with
  | [], _ => .error (.here .missingValue [])
  | '[' :: rest, 0 => .error (.here .tooDeep rest)
  | '{' :: rest, 0 => .error (.here .tooDeep rest)
  | '[' :: rest, depth + 1 => checked r.build (r.positional depth 0 r.empty r.fields rest)
  | '{' :: rest, depth + 1 =>
    checked r.build (membersInto (r.member depth) r.empty true rest)
  | text, _ => .error (mismatch (.record r.name) text)

theorem listEnd_length {text rest : List Char} (h : listEnd text = .ok rest) :
    rest.length ≤ text.length := by
  have hs := skipSpace_length text
  unfold listEnd at h
  split at h
  · contradiction
  · rename_i ht
    rw [ht, List.length_cons] at hs
    cases h
    omega
  · split at h <;> contradiction
  · contradiction

theorem Record.positional_length {r : Record σ α} {depth index : Nat} {draft draft' : σ}
    {fs : List (Field σ)} {text rest : List Char}
    (h : r.positional depth index draft fs text = .ok (draft', rest)) :
    rest.length ≤ text.length := by
  induction fs generalizing index draft text with
  | nil =>
    obtain ⟨a, ha, hf⟩ := map_eq_ok h
    cases hf
    exact listEnd_length ha
  | cons f fs ih =>
    simp only [Record.positional] at h
    split at h
    · contradiction
    · rename_i hn
      have := nextItem_length hn
      split at h
      · contradiction
      · cases h
        exact this
    · rename_i hn
      have := nextItem_length hn
      split at h
      · contradiction
      · rename_i hr
        have := (f.read depth draft).consumes hr
        have := ih h
        simp only [Turn.text] at *
        omega

theorem Record.run_length {r : Record σ α} {depth : Nat} {text rest : List Char} {a : α}
    (h : r.run depth text = .ok (a, rest)) : rest.length < text.length := by
  have hs := skipSpace_length text
  unfold Record.run at h
  split at h
  · contradiction
  · contradiction
  · contradiction
  · rename_i ht
    obtain ⟨s, hr, _⟩ := checked_ok h
    have := Record.positional_length hr
    rw [ht, List.length_cons] at hs
    omega
  · rename_i ht
    obtain ⟨s, hr, _⟩ := checked_ok h
    have := membersInto_length hr
    rw [ht, List.length_cons] at hs
    omega
  · contradiction

def Record.reader (r : Record σ α) (depth : Nat) : Reader α := ⟨r.run depth, Record.run_length⟩

def Record.parse (r : Record σ α) (text : List Char) : Except Fault α :=
  (r.reader maxDepth).whole text

def Record.fill (r : Record σ α) (length : Nat) (index : Nat) (draft : σ) :
    List (Field σ) → List Value → Except Cause σ
  | [], [] => .ok draft
  | [], _ :: _ => .error (.tooLong length)
  | f :: fs, [] =>
    match r.tooShort index (f :: fs) with
    | some c => .error c
    | none => .ok draft
  | f :: fs, v :: vs =>
    match f.convert draft v with
    | .error c => .error c
    | .ok draft => r.fill length (index + 1) draft fs vs

def Record.collect (r : Record σ α) (draft : σ) : List (String × Value) → Except Cause σ
  | [] => .ok draft
  | (key, v) :: ms =>
    match r.field? key with
    | none => r.collect draft ms
    | some f =>
      if f.isSet draft then .error (.duplicateField f.name)
      else
        match f.convert draft v with
        | .error c => .error c
        | .ok draft => r.collect draft ms

def Record.ofValue (r : Record σ α) : Value → Except Cause α
  | .array vs => (r.fill vs.length 0 r.empty r.fields vs).bind r.build
  | .object ms => (r.collect r.empty ms).bind r.build
  | v => .error (.wrongType (.ofValue v) (.record r.name))

end Switchboard.Json
