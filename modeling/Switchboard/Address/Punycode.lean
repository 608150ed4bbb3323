/-!
Punycode: text beyond ASCII in letters, digits and hyphens. The ASCII characters come first; the
others follow as the steps from one insertion to the next, in order of their code points.
-/

namespace Switchboard.Address

/-- A digit in base 36: letters, then numerals. -/
def punyDigit (d : Nat) : Char :=
  if d < 26 then Char.ofNat (0x61 + d) else Char.ofNat (0x30 + (d - 26))

def punyValue (c : Char) : Option Nat :=
  if 'a' ≤ c ∧ c ≤ 'z' then some (c.toNat - 0x61)
  else if '0' ≤ c ∧ c ≤ '9' then some (c.toNat - 0x30 + 26)
  else none

/-- A digit below the threshold at its place is the last of its number. -/
def threshold (place bias : Nat) : Nat := max 1 (min 26 (place - bias))

theorem threshold_pos (place bias : Nat) : 0 < threshold place bias := by
  unfold threshold; omega

def punyDigits (bias place n : Nat) : List Char :=
  let t := threshold place bias
  if h : n < t then [punyDigit n]
  else punyDigit (t + (n - t) % (36 - t)) :: punyDigits bias (place + 36) ((n - t) / (36 - t))
termination_by n
decreasing_by
  have := threshold_pos place bias
  have := Nat.div_le_self (n - threshold place bias) (36 - threshold place bias)
  simp only [t] at h ⊢
  omega

/-- How often a step has to be divided until it is small, in units of 36, and what is left. -/
def settleBias (place step : Nat) : Nat × Nat :=
  if 455 < step then settleBias (place + 36) (step / 35) else (place, step)
termination_by step

/-- The bias after a step, the first of which is damped. -/
def adapt (step size : Nat) (first : Bool) : Nat :=
  let step := if first then step / 700 else step / 2
  let (place, step) := settleBias 0 (step + step / size)
  place + 36 * step / (step + 38)

/-- The state between insertions: the code point and place reached, as one step yet to be written,
the bias, how many characters are in place, and whether none was inserted. -/
structure PunyState where
  bias : Nat := 72
  size : Nat
  first : Bool := true

def PunyState.insert (s : PunyState) (step : Nat) : PunyState :=
  { bias := adapt step (s.size + 1) s.first, size := s.size + 1, first := false }

/-- Writes the insertions of one code point into the text. Also returns the step that is left. -/
def punyPass (point : Nat) (s : PunyState) (step : Nat) :
    List Char → List Char × PunyState × Nat
  | [] => ([], s, step)
  | c :: cs =>
    if c.toNat < point then punyPass point s (step + 1) cs
    else if c.toNat = point then
      let digits := punyDigits s.bias 36 step
      let (rest, s, step) := punyPass point (s.insert step) 0 cs
      (digits ++ rest, s, step)
    else punyPass point s step cs

def punyPasses (cs : List Char) (reached step : Nat) (s : PunyState) : List Nat → List Char
  | [] => []
  | point :: points =>
    let (digits, s', step) := punyPass point s (step + (point - reached) * (s.size + 1)) cs
    digits ++ punyPasses cs (point + 1) (step + 1) s' points

def insertPoint (n : Nat) : List Nat → List Nat
  | [] => [n]
  | m :: ms => if n < m then n :: m :: ms else if n = m then m :: ms else m :: insertPoint n ms

def punycode (cs : List Char) : List Char :=
  let plain := cs.filter (·.toNat < 0x80)
  let points := (cs.filter (0x80 ≤ ·.toNat)).foldr (fun c ps => insertPoint c.toNat ps) []
  plain ++ (if plain = [] then [] else ['-']) ++
    punyPasses cs 0x80 0 { size := plain.length } points

def punyNumber (bias place weight n : Nat) : List Char → Option (Nat × List Char)
  | [] => none
  | c :: cs =>
    match punyValue c with
    | none => none
    | some d =>
      let t := threshold place bias
      let n := n + d * weight
      if d < t then some (n, cs) else punyNumber bias (place + 36) (weight * (36 - t)) n cs

/-- A number takes at least its last digit off the text, so the insertions come to an end. -/
theorem punyNumber_length {bias place weight n m : Nat} {cs rest : List Char}
    (h : punyNumber bias place weight n cs = some (m, rest)) : rest.length < cs.length := by
  induction cs generalizing place weight n with
  | nil => simp [punyNumber] at h
  | cons c cs ih =>
    simp only [punyNumber] at h
    split at h
    · simp at h
    · split at h
      · simp only [Option.some.injEq, Prod.mk.injEq] at h
        simp [h.2]
      · have := ih h
        simp only [List.length_cons]
        omega

/-- Carries out insertions: each number is a step from the last code point and place. -/
def punyInsert (done : List Char) (point place : Nat) (s : PunyState) (cs : List Char) :
    Option (List Char) :=
  match cs with
  | [] => some done
  | c :: cs' =>
    match h : punyNumber s.bias 36 1 0 (c :: cs') with
    | none => none
    | some (step, rest) =>
      let reach := place + step
      let point := point + reach / (s.size + 1)
      let place := reach % (s.size + 1)
      if point < 0xD800 ∨ 0xDFFF < point ∧ point < 0x110000 then
        punyInsert (done.take place ++ Char.ofNat point :: done.drop place) point (place + 1)
          (s.insert step) rest
      else none
termination_by cs.length
decreasing_by exact punyNumber_length h

def splitHyphen (cs : List Char) : List Char × List Char :=
  let after := (cs.reverse.takeWhile (· != '-')).reverse
  ((cs.take (cs.length - after.length)).dropLast, after)

def ofPunycode (cs : List Char) : Option (List Char) :=
  let (plain, steps) := splitHyphen cs
  if plain.all (·.toNat < 0x80) then punyInsert plain 0x80 0 { size := plain.length } steps
  else none

end Switchboard.Address
