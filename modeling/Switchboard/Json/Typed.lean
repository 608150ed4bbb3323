import Switchboard.Json.Skip

namespace Switchboard.Json

def Found.ofNumber : Number → Found
  | .integer n => .integer n.val
  | .float x => .float x

def Found.ofValue : Value → Found
  | .null => .null
  | .boolean b => .boolean b
  | .number n => .ofNumber n
  | .string s => .string s
  | .array _ => .sequence
  | .object _ => .map

def refusal (wanted : Wanted) : Reading Found → Fault
  | .error f => f
  | .ok (found, rest) => .here (.wrongType found wanted) rest

/-- The refusal of a value of another type. A faulty scalar is refused for its own fault, and lists
and objects are not entered. -/
def mismatch (wanted : Wanted) (text : List Char) : Fault :=
  match text with
  | [] => .here .missingValue []
  | 'n' :: rest => refusal wanted ((word ['u', 'l', 'l'] rest).map (.null, ·))
  | 't' :: rest => refusal wanted ((word ['r', 'u', 'e'] rest).map (.boolean true, ·))
  | 'f' :: rest => refusal wanted ((word ['a', 'l', 's', 'e'] rest).map (.boolean false, ·))
  | '-' :: rest => refusal wanted ((number true rest).map fun (n, rest) => (.ofNumber n, rest))
  | '"' :: rest =>
    refusal wanted ((stringBody rest).map fun (cs, rest) => (.string (String.ofList cs), rest))
  | '[' :: _ => .here (.wrongType .sequence wanted) text
  | '{' :: _ => .here (.wrongType .map wanted) text
  | c :: _ =>
    if isDigit c then
      refusal wanted ((number false text).map fun (n, rest) => (.ofNumber n, rest))
    else .next .expectedValue text

def wordOfNumber : Number → Except Cause Nat
  | .integer n =>
    match n.toNat? with
    | some m => .ok m
    | none => .error (.wrongValue (.integer n.val) .u64)
  | .float x => .error (.wrongType (.float x) .u64)

/-- Checks what was read and refuses it behind itself. -/
def checked (check : α → Except Cause β) : Reading α → Reading β
  | .error f => .error f
  | .ok (a, rest) =>
    match check a with
    | .error c => .error (.here c rest)
    | .ok b => .ok (b, rest)

/-- A check looks only at what was read, and leaves the rest where it is. -/
theorem checked_ok {check : α → Except Cause β} {r : Reading α} {b : β} {rest : List Char}
    (h : checked check r = .ok (b, rest)) : ∃ a, r = .ok (a, rest) ∧ check a = .ok b := by
  unfold checked at h
  split at h
  · contradiction
  · rename_i a rest
    split at h
    · contradiction
    · rename_i hc
      simp only [Except.ok.injEq, Prod.mk.injEq] at h
      exact ⟨a, by rw [h.2], by rw [hc, h.1]⟩

def unsigned : Reader Nat :=
  Reader.spaced
    { run := fun text =>
        match text with
        | [] => .error (.here .missingValue [])
        | '-' :: rest => checked wordOfNumber (number true rest)
        | c :: rest =>
          if isDigit c then checked wordOfNumber (number false (c :: rest))
          else .error (mismatch .u64 (c :: rest))
      consumes := by
        intro text rest a h
        split at h
        · contradiction
        · obtain ⟨n, hn, _⟩ := checked_ok h
          exact Nat.lt_succ_of_lt (number_length hn)
        · split at h
          · obtain ⟨n, hn, _⟩ := checked_ok h
            exact number_length hn
          · contradiction }

def truth : Reader Bool :=
  Reader.spaced
    { run := fun text =>
        match text with
        | [] => .error (.here .missingValue [])
        | 't' :: rest => (word ['r', 'u', 'e'] rest).map (true, ·)
        | 'f' :: rest => (word ['a', 'l', 's', 'e'] rest).map (false, ·)
        | text => .error (mismatch .boolean text)
      consumes := by
        intro text rest a h
        split at h
        · contradiction
        · obtain ⟨a, ha, hf⟩ := map_eq_ok h
          cases hf
          exact Nat.lt_succ_of_le (word_length ha)
        · obtain ⟨a, ha, hf⟩ := map_eq_ok h
          cases hf
          exact Nat.lt_succ_of_le (word_length ha)
        · contradiction }

def text : Reader String :=
  Reader.spaced
    { run := fun text =>
        match text with
        | [] => .error (.here .missingValue [])
        | '"' :: rest => (stringBody rest).map fun (cs, rest) => (String.ofList cs, rest)
        | text => .error (mismatch .string text)
      consumes := by
        intro text rest a h
        split at h
        · contradiction
        · obtain ⟨a, ha, hf⟩ := map_eq_ok h
          cases hf
          exact Nat.lt_succ_of_lt (stringBody_length ha)
        · contradiction }

def optionalText : Reader (Option String) :=
  Reader.spaced
    { run := fun input =>
        match input with
        | 'n' :: rest => (word ['u', 'l', 'l'] rest).map (none, ·)
        | input => (text.map some).run input
      consumes := by
        intro input rest a h
        split at h
        · obtain ⟨a, ha, hf⟩ := map_eq_ok h
          cases hf
          exact Nat.lt_succ_of_le (word_length ha)
        · exact (text.map some).consumes h }

def unsignedOf : Value → Except Cause Nat
  | .number n => wordOfNumber n
  | v => .error (.wrongType (.ofValue v) .u64)

def truthOf : Value → Except Cause Bool
  | .boolean b => .ok b
  | v => .error (.wrongType (.ofValue v) .boolean)

def textOf : Value → Except Cause String
  | .string s => .ok s
  | v => .error (.wrongType (.ofValue v) .string)

def optionalTextOf : Value → Except Cause (Option String)
  | .null => .ok none
  | v => (textOf v).map some

def convertAll (convert : Value → Except Cause α) : List Value → Except Cause (List α)
  | [] => .ok []
  | v :: vs =>
    match convert v with
    | .error c => .error c
    | .ok a => (convertAll convert vs).map (a :: ·)

def convertMembers (convert : Value → Except Cause α) :
    List (String × Value) → Except Cause (List (String × α))
  | [] => .ok []
  | (k, v) :: ms =>
    match convert v with
    | .error c => .error c
    | .ok a => (convertMembers convert ms).map ((k, a) :: ·)

def textsOf : Value → Except Cause (List String)
  | .array vs => convertAll textOf vs
  | v => .error (.wrongType (.ofValue v) .sequence)

def textMapOf : Value → Except Cause (List (String × String))
  | .object ms => convertMembers textOf ms
  | v => .error (.wrongType (.ofValue v) .map)

end Switchboard.Json
