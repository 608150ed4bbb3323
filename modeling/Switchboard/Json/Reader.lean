import Switchboard.Json.Lexeme

/-!
Reading JSON values from text. A reader always consumes: its rest is shorter than the text it was
given. So the loops over items and members end with the text, and nesting is bounded by a depth
that every list and object takes one off.
-/

namespace Switchboard.Json

/-- A way to read something off the front of a text that always consumes part of it. -/
structure Reader (α : Type) where
  run : List Char → Reading α
  consumes : ∀ {text rest a}, run text = .ok (a, rest) → rest.length < text.length

def Reader.map (f : α → β) (r : Reader α) : Reader β where
  run text :=
    match r.run text with
    | .error e => .error e
    | .ok (a, rest) => .ok (f a, rest)
  consumes h := by
    split at h
    · contradiction
    · rename_i hr
      simp only [Except.ok.injEq, Prod.mk.injEq] at h
      rw [← h.2]
      exact r.consumes hr

def Reader.refuse (fault : List Char → Fault) : Reader α where
  run text := .error (fault text)
  consumes h := by contradiction

theorem skipSpace_length (text : List Char) : (skipSpace text).length ≤ text.length :=
  length_dropWhile_le isSpace text

def Reader.spaced (r : Reader α) : Reader α where
  run text := r.run (skipSpace text)
  consumes h := Nat.lt_of_lt_of_le (r.consumes h) (skipSpace_length _)

def colon (text : List Char) : Except Fault (List Char) :=
  match skipSpace text with
  | [] => .error (.here .unclosedObject [])
  | ':' :: rest => .ok rest
  | rest => .error (.next .expectedColon rest)

theorem colon_length {text rest : List Char} (h : colon text = .ok rest) :
    rest.length < text.length := by
  have hs := skipSpace_length text
  unfold colon at h
  split at h
  · contradiction
  · rename_i ht
    simp only [Except.ok.injEq] at h
    rw [ht, List.length_cons] at hs
    rw [← h]; omega
  · contradiction

def Reader.afterColon (r : Reader α) : Reader α where
  run text :=
    match colon text with
    | .error e => .error e
    | .ok rest => r.run rest
  consumes h := by
    split at h
    · contradiction
    · rename_i hc
      exact Nat.lt_trans (r.consumes h) (colon_length hc)

inductive Turn
  | entry (text : List Char)
  | done (rest : List Char)

def Turn.text : Turn → List Char
  | .entry text => text
  | .done rest => rest

def nextItem (first : Bool) (text : List Char) : Except Fault Turn :=
  match skipSpace text with
  | [] => .error (.here .unclosedList [])
  | ']' :: rest => .ok (.done rest)
  | c :: rest =>
    if first then .ok (.entry (c :: rest))
    else if c = ',' then
      match skipSpace rest with
      | [] => .error (.here .missingValue [])
      | ']' :: rest => .error (.here .trailingComma rest)
      | rest => .ok (.entry rest)
    else .error (.next .expectedCommaOrBracket (c :: rest))

/-- Looks for the next key of an object. The entry begins behind the quote that opens the key. -/
def nextKey (first : Bool) (text : List Char) : Except Fault Turn :=
  match skipSpace text with
  | [] => .error (.here .unclosedObject [])
  | '}' :: rest => .ok (.done rest)
  | c :: rest =>
    if first then
      if c = '"' then .ok (.entry rest) else .error (.next .keyNotString (c :: rest))
    else if c = ',' then
      match skipSpace rest with
      | [] => .error (.here .missingValue [])
      | '"' :: rest => .ok (.entry rest)
      | '}' :: rest => .error (.here .trailingComma rest)
      | rest => .error (.next .keyNotString rest)
    else .error (.next .expectedCommaOrBrace (c :: rest))

/-- Looking for an item may take nothing: it is the item that takes something. -/
theorem nextItem_length {first : Bool} {text : List Char} {t : Turn}
    (h : nextItem first text = .ok t) : t.text.length ≤ text.length := by
  have hs := skipSpace_length text
  unfold nextItem at h
  split at h
  · contradiction
  · rename_i ht
    rw [ht, List.length_cons] at hs
    cases h
    simp only [Turn.text]; omega
  · rename_i c rest _ ht
    rw [ht, List.length_cons] at hs
    have hr := skipSpace_length rest
    split at h
    · cases h
      simp only [Turn.text, List.length_cons]; omega
    · split at h
      · split at h
        · contradiction
        · contradiction
        · cases h
          simp only [Turn.text]; omega
      · contradiction

/-- Looking for a key takes at least its quote or the closing brace, so the members come to an end.
-/
theorem nextKey_length {first : Bool} {text : List Char} {t : Turn}
    (h : nextKey first text = .ok t) : t.text.length < text.length := by
  have hs := skipSpace_length text
  unfold nextKey at h
  split at h
  · contradiction
  · rename_i ht
    rw [ht, List.length_cons] at hs
    cases h
    simp only [Turn.text]; omega
  · rename_i c rest _ ht
    rw [ht, List.length_cons] at hs
    have hr := skipSpace_length rest
    split at h
    · split at h
      · cases h
        simp only [Turn.text]; omega
      · contradiction
    · split at h
      · split at h
        · contradiction
        · rename_i hk
          rw [hk, List.length_cons] at hr
          cases h
          simp only [Turn.text]; omega
        · contradiction
        · contradiction
      · contradiction

set_option linter.unusedVariables false in
def items (item : Reader α) (first : Bool) (text : List Char) : Reading (List α) :=
  match ht : nextItem first text with
  | .error e => .error e
  | .ok (.done rest) => .ok ([], rest)
  | .ok (.entry entry) =>
    match hi : item.run entry with
    | .error e => .error e
    | .ok (a, rest) =>
      match items item false rest with
      | .error e => .error e
      | .ok (as, last) => .ok (a :: as, last)
termination_by text.length
decreasing_by
  have := nextItem_length ht
  have := item.consumes hi
  simp only [Turn.text] at *
  omega

def key (text : List Char) : Reading String :=
  match stringBody text with
  | .error e => .error e
  | .ok (cs, rest) => .ok (String.ofList cs, rest)

theorem key_length {text rest : List Char} {k : String} (h : key text = .ok (k, rest)) :
    rest.length < text.length := by
  unfold key at h
  split at h
  · contradiction
  · rename_i hs
    simp only [Except.ok.injEq, Prod.mk.injEq] at h
    rw [← h.2]
    exact stringBody_length hs

set_option linter.unusedVariables false in
/-- Reads the members of an object, up to and with the brace that closes it. What was collected so
far and the key decide how the rest of a member is read. -/
def membersInto (member : σ → String → Reader σ) (s : σ) (first : Bool) (text : List Char) :
    Reading σ :=
  match ht : nextKey first text with
  | .error e => .error e
  | .ok (.done rest) => .ok (s, rest)
  | .ok (.entry entry) =>
    match hk : key entry with
    | .error e => .error e
    | .ok (k, value) =>
      match hm : (member s k).run value with
      | .error e => .error e
      | .ok (s', rest) => membersInto member s' false rest
termination_by text.length
decreasing_by
  have := nextKey_length ht
  have := key_length hk
  have := (member s k).consumes hm
  simp only [Turn.text] at *
  omega

theorem items_length {item : Reader α} {first : Bool} {text rest : List Char} {as : List α}
    (h : items item first text = .ok (as, rest)) : rest.length ≤ text.length := by
  fun_induction items item first text generalizing as rest with
  | case1 => contradiction
  | case2 first text last ht =>
    have := nextItem_length ht
    cases h
    exact this
  | case3 => contradiction
  | case4 => contradiction
  | case5 first text entry ht a tail hi as' last hs ih =>
    have := nextItem_length ht
    have := item.consumes hi
    have := ih hs
    simp only [Turn.text] at *
    simp only [Except.ok.injEq, Prod.mk.injEq] at h
    rw [← h.2]
    omega

theorem membersInto_length {member : σ → String → Reader σ} {s s' : σ} {first : Bool}
    {text rest : List Char} (h : membersInto member s first text = .ok (s', rest)) :
    rest.length ≤ text.length := by
  fun_induction membersInto member s first text with
  | case1 => contradiction
  | case2 s first text last ht =>
    have := nextKey_length ht
    cases h
    simp only [Turn.text] at this
    omega
  | case3 => contradiction
  | case4 => contradiction
  | case5 s first text entry ht k value hk s'' tail hm ih =>
    have := nextKey_length ht
    have := key_length hk
    have := (member s k).consumes hm
    have := ih h
    simp only [Turn.text] at *
    omega

/-- Reads a value from its first character. How lists and objects go on is left open. -/
def valueWith (list object : List Char → Reading Value) (text : List Char) : Reading Value :=
  match text with
  | [] => .error (.here .missingValue [])
  | 'n' :: rest => (word ['u', 'l', 'l'] rest).map (.null, ·)
  | 't' :: rest => (word ['r', 'u', 'e'] rest).map (.boolean true, ·)
  | 'f' :: rest => (word ['a', 'l', 's', 'e'] rest).map (.boolean false, ·)
  | '-' :: rest => (number true rest).map fun (n, rest) => (.number n, rest)
  | '"' :: rest => (stringBody rest).map fun (cs, rest) => (.string (String.ofList cs), rest)
  | '[' :: rest => list rest
  | '{' :: rest => object rest
  | c :: rest =>
    if isDigit c then (number false (c :: rest)).map fun (n, rest) => (.number n, rest)
    else .error (.next .expectedValue (c :: rest))

theorem map_eq_ok {f : α → β} {x : Except ε α} {b : β} (h : x.map f = .ok b) :
    ∃ a, x = .ok a ∧ f a = b := by
  cases x with
  | error e => contradiction
  | ok a => exact ⟨a, rfl, by simpa [Except.map] using h⟩

/-- A value takes at least its first character, however its lists and objects go on. -/
theorem valueWith_length {list object : List Char → Reading Value}
    (hl : ∀ {text rest v}, list text = .ok (v, rest) → rest.length ≤ text.length)
    (ho : ∀ {text rest v}, object text = .ok (v, rest) → rest.length ≤ text.length)
    {text rest : List Char} {v : Value} (h : valueWith list object text = .ok (v, rest)) :
    rest.length < text.length := by
  unfold valueWith at h
  split at h
  · contradiction
  · obtain ⟨a, ha, hf⟩ := map_eq_ok h
    cases hf
    exact Nat.lt_succ_of_le (word_length ha)
  · obtain ⟨a, ha, hf⟩ := map_eq_ok h
    cases hf
    exact Nat.lt_succ_of_le (word_length ha)
  · obtain ⟨a, ha, hf⟩ := map_eq_ok h
    cases hf
    exact Nat.lt_succ_of_le (word_length ha)
  · obtain ⟨a, ha, hf⟩ := map_eq_ok h
    cases hf
    exact Nat.lt_succ_of_lt (number_length ha)
  · obtain ⟨a, ha, hf⟩ := map_eq_ok h
    cases hf
    exact Nat.lt_succ_of_lt (stringBody_length ha)
  · exact Nat.lt_succ_of_le (hl h)
  · exact Nat.lt_succ_of_le (ho h)
  · split at h
    · obtain ⟨a, ha, hf⟩ := map_eq_ok h
      cases hf
      exact number_length ha
    · contradiction

def addMember (item : Reader Value) (ms : List (String × Value)) (k : String) :
    Reader (List (String × Value)) :=
  (item.map fun v => insertMember k v ms).afterColon

def value : Nat → Reader Value
  | 0 =>
    Reader.spaced
      { run := valueWith (fun rest => .error (.here .tooDeep rest))
          (fun rest => .error (.here .tooDeep rest))
        consumes := valueWith_length (by simp) (by simp) }
  | depth + 1 =>
    Reader.spaced
      { run := valueWith
          (fun rest => (items (value depth) true rest).map fun (vs, rest) => (.array vs, rest))
          (fun rest =>
            (membersInto (addMember (value depth)) [] true rest).map
              fun (ms, rest) => (.object ms, rest))
        consumes := valueWith_length
          (by
            intro text rest v h
            obtain ⟨a, ha, hf⟩ := map_eq_ok h
            cases hf
            exact items_length ha)
          (by
            intro text rest v h
            obtain ⟨a, ha, hf⟩ := map_eq_ok h
            cases hf
            exact membersInto_length ha) }

def maxDepth : Nat := 127

/-- Reads a text that holds one thing and nothing but blanks after it. -/
def Reader.whole (r : Reader α) (text : List Char) : Except Fault α :=
  match r.run text with
  | .error e => .error e
  | .ok (a, rest) =>
    match skipSpace rest with
    | [] => .ok a
    | rest => .error (.next .trailingCharacters rest)

def parse (text : List Char) : Except Fault Value := (value maxDepth).whole text

end Switchboard.Json
