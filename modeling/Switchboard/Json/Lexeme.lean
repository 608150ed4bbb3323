import Switchboard.Json.Value
import Switchboard.Json.Fault

namespace Switchboard.Json

abbrev Reading (α : Type) := Except Fault (α × List Char)

def isSpace (c : Char) : Bool := c = ' ' || c = '\n' || c = '\t' || c = '\r'

def skipSpace (text : List Char) : List Char := text.dropWhile isSpace

def word : List Char → List Char → Except Fault (List Char)
  | [], rest => .ok rest
  | _ :: _, [] => .error (.here .missingValue [])
  | w :: ws, c :: rest => 
    if c = w then word ws rest else .error (.next .expectedIdent (c :: rest))

def hexValue (c : Char) : Option Nat :=
  if '0' ≤ c && c ≤ '9' then some (c.toNat - 48)
  else if 'a' ≤ c && c ≤ 'f' then some (c.toNat - 87)
  else if 'A' ≤ c && c ≤ 'F' then some (c.toNat - 55)
  else none

/-- Four bytes are taken before they are looked at. -/
def hexFault (text : List Char) : Fault :=
  if Text.bytes text < 4 then .here .unclosedString [] else ⟨.invalidEscape, Text.bytes text - 4⟩

def hexFour (text : List Char) : Reading Nat :=
  match text with
  | a :: b :: c :: d :: rest =>
    match hexValue a, hexValue b, hexValue c, hexValue d with
    | some i, some j, some k, some l => .ok (((i * 16 + j) * 16 + k) * 16 + l, rest)
    | _, _, _, _ => .error (hexFault text)
  | _ => .error (hexFault text)

def isLeading (n : Nat) : Bool := 0xD800 ≤ n && n ≤ 0xDBFF

def isTrailing (n : Nat) : Bool := 0xDC00 ≤ n && n ≤ 0xDFFF

def trailing (leading : Nat) : List Char → Reading Char
  | [] => .error (.here .unclosedString [])
  | '\\' :: [] => .error (.here .unclosedString [])
  | '\\' :: 'u' :: text =>
    match hexFour text with
    | .error f => .error f
    | .ok (n, rest) =>
      if isTrailing n then
        .ok (Char.ofNat ((leading - 0xD800) * 0x400 + (n - 0xDC00) + 0x10000), rest)
      else .error (.here .loneSurrogate rest)
  | '\\' :: rest => .error (.next .unfinishedSurrogate rest)
  | rest => .error (.next .unfinishedSurrogate rest)

def codeUnit (text : List Char) : Reading Char :=
  match hexFour text with
  | .error f => .error f
  | .ok (n, rest) =>
    if isTrailing n then .error (.here .loneSurrogate rest)
    else if isLeading n then trailing n rest
    else .ok (Char.ofNat n, rest)

def shortEscape : Char → Option Char
  | '"' => some '"'
  | '\\' => some '\\'
  | '/' => some '/'
  | 'b' => some '\x08'
  | 'f' => some '\x0c'
  | 'n' => some '\n'
  | 'r' => some '\r'
  | 't' => some '\t'
  | _ => none

def escaped : List Char → Reading Char
  | [] => .error (.here .unclosedString [])
  | 'u' :: text => codeUnit text
  | c :: rest =>
    match shortEscape c with
    | some d => .ok (d, rest)
    | none => .error (.next .invalidEscape (c :: rest))

theorem hexFour_length {text rest : List Char} {n : Nat} (h : hexFour text = .ok (n, rest)) :
    rest.length < text.length := by
  unfold hexFour at h
  split at h
  · split at h
    · simp only [Except.ok.injEq, Prod.mk.injEq] at h
      simp only [← h.2, List.length_cons]; omega
    · simp at h
  · simp at h

theorem trailing_length {n : Nat} {text rest : List Char} {c : Char}
    (h : trailing n text = .ok (c, rest)) : rest.length < text.length := by
  unfold trailing at h
  split at h <;> try contradiction
  split at h
  · contradiction
  · rename_i hx
    have := hexFour_length hx
    split at h
    · simp only [Except.ok.injEq, Prod.mk.injEq] at h
      simp only [← h.2, List.length_cons]; omega
    · contradiction

theorem escaped_length {text rest : List Char} {c : Char} (h : escaped text = .ok (c, rest)) :
    rest.length < text.length := by
  unfold escaped at h
  split at h
  · contradiction
  · rename_i text
    unfold codeUnit at h
    split at h
    · contradiction
    · rename_i hx
      have := hexFour_length hx
      split at h
      · contradiction
      · split at h
        · have := trailing_length h
          simp only [List.length_cons]; omega
        · simp only [Except.ok.injEq, Prod.mk.injEq] at h
          simp only [← h.2, List.length_cons]; omega
  · split at h
    · simp only [Except.ok.injEq, Prod.mk.injEq] at h
      simp [← h.2]
    · contradiction

set_option linter.unusedVariables false in
def stringBody (text : List Char) : Reading (List Char) :=
  match text with
  | [] => .error (.here .unclosedString [])
  | '"' :: rest => .ok ([], rest)
  | '\\' :: rest =>
    match h : escaped rest with
    | .error f => .error f
    | .ok (c, rest') =>
      match stringBody rest' with
      | .error f => .error f
      | .ok (cs, last) => .ok (c :: cs, last)
  | c :: rest =>
    if c.toNat < 0x20 then .error (.here .controlCharacter rest)
    else
      match stringBody rest with
      | .error f => .error f
      | .ok (cs, last) => .ok (c :: cs, last)
termination_by text.length
decreasing_by
  · have := escaped_length h; simp only [List.length_cons]; omega
  · simp

def digitValue (c : Char) : Nat := c.toNat - 48

def isDigit (c : Char) : Bool := '0' ≤ c && c ≤ '9'

def startsWithDigit : List Char → Bool
  | c :: _ => isDigit c
  | [] => false

/-- Appends digits to a number while the result stays below `2 ^ 64`. -/
def absorb (m : Nat) : List Char → Nat × List Char
  | [] => (m, [])
  | c :: rest =>
    if isDigit c && m * 10 + digitValue c < 0x10000000000000000 then absorb (m * 10 + digitValue c) rest
    else (m, c :: rest)

def dropDigits (text : List Char) : List Char := text.dropWhile isDigit

/-- Divides a double by a power of ten, at most `10 ^ 308` at a time. -/
def divideByTen (x : Float) (n : Nat) : Float :=
  if 308 < n then
    if x == 0 then x else divideByTen (x / Float.ofScientific 1 false 308) (n - 308)
  else x / Float.ofScientific 1 false n
termination_by n
decreasing_by omega

/-- The double `m * 10 ^ e`, rounded once for the significand, once for the power of ten and once
for their product or quotient. None when it is too large. -/
def scaled (m : Nat) (e : Int) : Option Float :=
  let x := m.toUInt64.toFloat
  if e < 0 then some (divideByTen x e.natAbs)
  else if 308 < e then if m = 0 then some x else none
  else
    let y := x * Float.ofScientific 1 false e.toNat
    if y.isInf then none else some y

/-- Bounds an exponent to a signed word of 32 bits. -/
def clampExponent (e : Int) : Int := max (-0x80000000) (min 0x7fffffff e)

/-- The number a literal stands for when it has a fraction or an exponent, or is too long. -/
def floatOf (negative : Bool) (m : Nat) (e : Int) (rest : List Char) : Reading Number :=
  match scaled m e with
  | none => .error (.here .numberOutOfRange rest)
  | some x => .ok (.float (if negative then -x else x), rest)

/-- Appends digits to an exponent while it stays below `2 ^ 31`. None when it does not. The rest
begins behind the digit that was too much. -/
def exponentDigits (n : Nat) : List Char → Option Nat × List Char
  | [] => (some n, [])
  | c :: rest =>
    if isDigit c then
      if n * 10 + digitValue c < 0x80000000 then exponentDigits (n * 10 + digitValue c) rest
      else (none, rest)
    else (some n, c :: rest)

def exponentSign : List Char → Bool × List Char
  | '+' :: rest => (false, rest)
  | '-' :: rest => (true, rest)
  | rest => (false, rest)

def exponent (negative : Bool) (m : Nat) (e : Int) (text : List Char) : Reading Number :=
  match exponentSign text with
  | (_, []) => .error (.here .missingValue [])
  | (down, c :: rest) =>
    if isDigit c then
      match exponentDigits (digitValue c) rest with
      | (some n, rest) => floatOf negative m (clampExponent (if down then e - n else e + n)) rest
      | (none, rest) =>
        if m ≠ 0 ∧ !down then .error (.here .numberOutOfRange rest)
        else .ok (.float (if negative then -0.0 else 0.0), dropDigits rest)
    else .error (.next .invalidNumber (c :: rest))

def exponentOrEnd (negative : Bool) (m : Nat) (e : Int) : List Char → Reading Number
  | 'e' :: rest => exponent negative m e rest
  | 'E' :: rest => exponent negative m e rest
  | rest => floatOf negative m e rest

/-- Reads a fraction, after the point. Digits that do not fit the significand are dropped. -/
def fraction (negative : Bool) (m : Nat) (e : Int) (text : List Char) : Reading Number :=
  match text with
  | [] => .error (.here .missingValue [])
  | c :: _ =>
    if isDigit c then
      let (m', rest) := absorb m text
      exponentOrEnd negative m' (e - (text.length - rest.length : Nat)) (dropDigits rest)
    else .error (.next .invalidNumber text)

/-- Reads the rest of a number whose digits no longer fit the significand: each further one counts
for the exponent. -/
def longNumber (negative : Bool) (m : Nat) (text : List Char) : Reading Number :=
  let rest := dropDigits text
  let e : Nat := text.length - rest.length
  match rest with
  | '.' :: rest => fraction negative m e rest
  | rest => exponentOrEnd negative m e rest

/-- The integer a literal without fraction and exponent stands for. Minus zero and integers below
`-2 ^ 63` are floats. -/
def wholeNumber (negative : Bool) (m : Nat) : Number :=
  if negative then
    if h : 0 < m ∧ m ≤ 0x8000000000000000 then .integer (Integer.negOfNat m h.2)
    else .float (-m.toUInt64.toFloat)
  else if h : m < 0x10000000000000000 then .integer (Integer.ofNat m h)
  else .float m.toUInt64.toFloat

def afterInteger (negative : Bool) (m : Nat) : List Char → Reading Number
  | '.' :: rest => fraction negative m 0 rest
  | 'e' :: rest => exponent negative m 0 rest
  | 'E' :: rest => exponent negative m 0 rest
  | rest => .ok (wholeNumber negative m, rest)

def number (negative : Bool) : List Char → Reading Number
  | [] => .error (.here .missingValue [])
  | '0' :: rest =>
    if startsWithDigit rest then .error (.next .invalidNumber rest)
    else afterInteger negative 0 rest
  | c :: rest =>
    if isDigit c then
      let (m, rest) := absorb (digitValue c) rest
      if startsWithDigit rest then longNumber negative m rest else afterInteger negative m rest
    else .error (.next .invalidNumber (c :: rest))

theorem length_dropWhile_le (p : Char → Bool) (text : List Char) :
    (text.dropWhile p).length ≤ text.length :=
  (List.dropWhile_sublist p).length_le

theorem absorb_length (m : Nat) (text : List Char) : (absorb m text).2.length ≤ text.length := by
  induction text generalizing m with
  | nil => simp [absorb]
  | cons c rest ih =>
    simp only [absorb]
    split
    · have := ih (m * 10 + digitValue c)
      simp only [List.length_cons]; omega
    · simp

theorem exponentDigits_length (n : Nat) (text : List Char) :
    (exponentDigits n text).2.length ≤ text.length := by
  induction text generalizing n with
  | nil => simp [exponentDigits]
  | cons c rest ih =>
    simp only [exponentDigits]
    split
    · split
      · have := ih (n * 10 + digitValue c)
        simp only [List.length_cons]; omega
      · simp
    · simp

theorem exponentSign_length (text : List Char) :
    (exponentSign text).2.length ≤ text.length := by
  unfold exponentSign
  split <;> simp

/-- What a literal stands for is told from its digits alone: nothing more is read. -/
theorem floatOf_rest {negative : Bool} {m : Nat} {e : Int} {text rest : List Char} {n : Number}
    (h : floatOf negative m e text = .ok (n, rest)) : rest = text := by
  unfold floatOf at h
  split at h
  · contradiction
  · simp only [Except.ok.injEq, Prod.mk.injEq] at h
    exact h.2.symm

theorem exponent_length {negative : Bool} {m : Nat} {e : Int} {text rest : List Char} {n : Number}
    (h : exponent negative m e text = .ok (n, rest)) : rest.length < text.length := by
  have hs := exponentSign_length text
  unfold exponent at h
  split at h
  · contradiction
  · rename_i c tail he
    rw [he, List.length_cons] at hs
    have hd := exponentDigits_length (digitValue c) tail
    split at h
    · split at h
      · rename_i hn
        simp only [hn] at hd
        rw [floatOf_rest h]; omega
      · rename_i hn
        simp only [hn] at hd
        split at h
        · contradiction
        · simp only [Except.ok.injEq, Prod.mk.injEq] at h
          have := length_dropWhile_le isDigit
          rw [← h.2]
          exact Nat.lt_of_le_of_lt (this _) (by omega)
    · contradiction

theorem exponentOrEnd_length {negative : Bool} {m : Nat} {e : Int} {text rest : List Char}
    {n : Number} (h : exponentOrEnd negative m e text = .ok (n, rest)) :
    rest.length ≤ text.length := by
  unfold exponentOrEnd at h
  split at h
  · have := exponent_length h; simp only [List.length_cons]; omega
  · have := exponent_length h; simp only [List.length_cons]; omega
  · exact Nat.le_of_eq (by rw [floatOf_rest h])

theorem fraction_length {negative : Bool} {m : Nat} {e : Int} {text rest : List Char} {n : Number}
    (h : fraction negative m e text = .ok (n, rest)) : rest.length ≤ text.length := by
  unfold fraction at h
  split at h
  · contradiction
  · rename_i c tail
    split at h
    · have h1 := exponentOrEnd_length h
      have h2 := length_dropWhile_le isDigit (absorb m (c :: tail)).2
      have h3 := absorb_length m (c :: tail)
      exact Nat.le_trans h1 (Nat.le_trans h2 h3)
    · contradiction

theorem longNumber_length {negative : Bool} {m : Nat} {text rest : List Char} {n : Number}
    (h : longNumber negative m text = .ok (n, rest)) : rest.length ≤ text.length := by
  have hd := length_dropWhile_le isDigit text
  unfold longNumber at h
  simp only [dropDigits] at h
  split at h
  · rename_i ht
    have := fraction_length h
    rw [ht, List.length_cons] at hd
    omega
  · have := exponentOrEnd_length h
    omega

theorem afterInteger_length {negative : Bool} {m : Nat} {text rest : List Char} {n : Number}
    (h : afterInteger negative m text = .ok (n, rest)) : rest.length ≤ text.length := by
  unfold afterInteger at h
  split at h
  · have := fraction_length h; simp only [List.length_cons]; omega
  · have := exponent_length h; simp only [List.length_cons]; omega
  · have := exponent_length h; simp only [List.length_cons]; omega
  · simp only [Except.ok.injEq, Prod.mk.injEq] at h
    exact Nat.le_of_eq (by rw [h.2])

theorem number_length {negative : Bool} {text rest : List Char} {n : Number}
    (h : number negative text = .ok (n, rest)) : rest.length < text.length := by
  unfold number at h
  split at h
  · contradiction
  · split at h
    · contradiction
    · have := afterInteger_length h; simp only [List.length_cons]; omega
  · rename_i c tail _
    have ha := absorb_length (digitValue c) tail
    split at h
    · simp only at h
      split at h
      · have := longNumber_length h; simp only [List.length_cons]; omega
      · have := afterInteger_length h; simp only [List.length_cons]; omega
    · contradiction

theorem word_length {expected text rest : List Char} (h : word expected text = .ok rest) :
    rest.length ≤ text.length := by
  induction expected generalizing text with
  | nil => simp only [word, Except.ok.injEq] at h; exact Nat.le_of_eq (by rw [h])
  | cons w ws ih =>
    cases text with
    | nil => simp [word] at h
    | cons c tail =>
      simp only [word] at h
      split at h
      · have := ih h; simp only [List.length_cons]; omega
      · contradiction

theorem stringBody_length {text cs rest : List Char} (h : stringBody text = .ok (cs, rest)) :
    rest.length < text.length := by
  fun_induction stringBody text generalizing cs rest with
  | case1 => contradiction
  | case2 tail =>
    simp only [Except.ok.injEq, Prod.mk.injEq] at h
    simp [h.2]
  | case3 => simp_all
  | case4 => simp_all
  | case5 tail c tail' he cs' last hs ih =>
    have := escaped_length he
    have := ih hs
    simp_all only [Except.ok.injEq, Prod.mk.injEq, List.length_cons]
    omega
  | case6 => simp_all
  | case7 => simp_all
  | case8 c tail _ _ _ cs' last hs ih =>
    have := ih hs
    simp_all only [Except.ok.injEq, Prod.mk.injEq, List.length_cons]
    omega

end Switchboard.Json
