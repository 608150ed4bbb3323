/-!
The decimal text of a double: the fewest digits that read back as the same double, nearest to it
among those, positional for middling exponents and scientific for the rest.
-/

namespace Switchboard.Json.Decimal

/-- A positive double with the reals that round to it: `low`, `value` and `high` over `den`. The
ends count when `closed`. -/
structure Span where
  low : Nat
  value : Nat
  high : Nat
  den : Nat
  closed : Bool

def Span.ofBinary (m : Nat) (q : Int) (narrow : Bool) : Span :=
  let scale := Nat.pow 2 (q - 2).toNat
  let down := if narrow then 1 else 2
  ⟨(4 * m - down) * scale, 4 * m * scale, (4 * m + 2) * scale, Nat.pow 2 (2 - q).toNat, m % 2 = 0⟩

def Span.contains (s : Span) (k : Int) (d : Nat) : Bool :=
  let point := d * Nat.pow 10 k.toNat * s.den
  let unit := Nat.pow 10 (-k).toNat
  if s.closed then s.low * unit ≤ point && point ≤ s.high * unit
  else s.low * unit < point && point < s.high * unit

/-- The point of the grid `10 ^ k` that reads back as the double and is nearest to it. A tie goes
to the even point. -/
def Span.onGrid (s : Span) (k : Int) : Option Nat :=
  let unit := s.value * Nat.pow 10 (-k).toNat
  let step := Nat.pow 10 k.toNat * s.den
  let d := unit / step
  let below := unit - d * step
  let above := (d + 1) * step - unit
  match s.contains k d, s.contains k (d + 1) with
  | true, true => some (if below < above ∨ (below = above ∧ d % 2 = 0) then d else d + 1)
  | true, false => some d
  | false, true => some (d + 1)
  | false, false => none

def Span.coarsest (s : Span) (k : Int) : Nat → Nat × Int
  | 0 => (0, k)
  | n + 1 =>
    match s.onGrid k with
    | some d => (d, k)
    | none => s.coarsest (k - 1) n

/-- Digits and exponent `(d, k)` of the shortest decimal `d * 10 ^ k` of a positive double. -/
def shortest (x : Float) : Nat × Int :=
  let bits := x.toBits.toNat
  let fraction : Nat := bits % 0x10000000000000
  let exponent : Nat := bits / 0x10000000000000 % 0x800
  let span :=
    if exponent = 0 then Span.ofBinary fraction (-1074) false
    else Span.ofBinary (fraction + 0x10000000000000) ((exponent : Int) - 1075) (fraction = 0 && 1 < exponent)
  span.coarsest 309 652

structure Layout where
  least : Int
  most : Int

/-- Exponents from -5 to 15 are written positionally. -/
def layout : Layout := ⟨-5, 15⟩

def zeros (n : Nat) : List Char := List.replicate n '0'

def Layout.text (l : Layout) (d : Nat) (k : Int) : List Char :=
  let digits := Nat.toDigits 10 d
  let lead := k + digits.length - 1
  if l.least ≤ lead ∧ lead ≤ l.most then
    if 0 ≤ k then digits ++ zeros k.toNat ++ ['.', '0']
    else if 0 ≤ lead then digits.take (lead.toNat + 1) ++ '.' :: digits.drop (lead.toNat + 1)
    else '0' :: '.' :: zeros (-lead - 1).toNat ++ digits
  else
    let tail := if digits.length = 1 then [] else '.' :: digits.drop 1
    let sign := if lead < 0 then '-' else '+'
    digits.take 1 ++ tail ++ 'e' :: sign :: Nat.toDigits 10 lead.natAbs

def ofFloat (x : Float) : String :=
  let bits := x.toBits.toNat
  let sign := if 0x8000000000000000 ≤ bits then ['-'] else []
  if bits % 0x8000000000000000 = 0 then String.ofList (sign ++ ['0', '.', '0'])
  else
    let (d, k) := shortest x
    String.ofList (sign ++ layout.text d k)

end Switchboard.Json.Decimal
