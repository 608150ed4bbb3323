import Switchboard.Text.Composition.Table
import Switchboard.Text.Mark

/-!
Composition: a base and its marks are written as one character where there is one, and marks that do
not touch each other stand in a fixed order. This is Unicode's normal form C.
-/

namespace Switchboard.Text

structure Composite where
  whole : Char
  base : Char
  added : Char
  deriving Inhabited

def Composite.ofRow (row : Nat × Nat × Nat) : Composite :=
  ⟨Char.ofNat row.1, Char.ofNat row.2.1, Char.ofNat row.2.2⟩

def composites : List Composite := compositionTable.map Composite.ofRow

def syllableParts (c : Char) : Option (List Char) :=
  let n := c.toNat - 0xAC00
  if 0xAC00 ≤ c.toNat ∧ c.toNat < 0xD7A4 then
    let tail := n % 28
    some ([Char.ofNat (0x1100 + n / 588), Char.ofNat (0x1161 + n % 588 / 28)] ++
      if tail = 0 then [] else [Char.ofNat (0x11A7 + tail)])
  else none

def syllable (a b : Char) : Option Char :=
  let x := a.toNat
  let y := b.toNat
  if 0x1100 ≤ x ∧ x < 0x1113 ∧ 0x1161 ≤ y ∧ y < 0x1176 then
    some (Char.ofNat (0xAC00 + (x - 0x1100) * 588 + (y - 0x1161) * 28))
  else if 0xAC00 ≤ x ∧ x < 0xD7A4 ∧ (x - 0xAC00) % 28 = 0 ∧ 0x11A8 ≤ y ∧ y < 0x11C3 then
    some (Char.ofNat (x + (y - 0x11A7)))
  else none

/-- How deep composites are nested. -/
def nesting : Nat := 4

def decompose : Nat → Char → List Char
  | 0, c => [c]
  | depth + 1, c =>
    if c.toNat < 0xC0 then [c]
    else match syllableParts c with
      | some parts => parts
      | none =>
        match composites.find? (·.whole == c) with
        | some p => decompose depth p.base ++ decompose depth p.added
        | none => [c]

/-- Puts a mark among those before it, given last first: behind the marks of lower or equal class. -/
def insertMark (c : Char) : List Char → List Char
  | [] => [c]
  | d :: ds =>
    if combiningClass c ≠ 0 ∧ combiningClass c < combiningClass d then d :: insertMark c ds
    else c :: d :: ds

/-- Sorts the marks after each base by class, without changing the order within a class. -/
def orderMarks (cs : List Char) : List Char := (cs.foldl (fun done c => insertMark c done) []).reverse

def compose? (a b : Char) : Option Char :=
  (syllable a b) <|>
    (composites.find? (fun p => p.base == a && p.added == b)).map (·.whole)

/-- Text under composition: what is done, last first, the base that takes marks and the marks that
it did not take, last first. -/
structure Composing where
  done : List Char := []
  base : Option Char := none
  marks : List Char := []

def Composing.all (s : Composing) : List Char := s.marks ++ s.base.toList ++ s.done

/-- Takes one more character. The base takes it unless a mark of the same class, or another base,
stands between them. -/
def Composing.take (s : Composing) (c : Char) : Composing :=
  let k := combiningClass c
  let blocked := match s.marks with
    | [] => false
    | m :: _ => k ≤ combiningClass m
  let whole := if blocked then none else s.base.bind (compose? · c)
  match whole with
  | some whole => { s with base := some whole }
  | none => if k = 0 then { done := s.all, base := some c } else { s with marks := c :: s.marks }

def composed (cs : List Char) : List Char :=
  if cs.all (·.toNat < 0xC0) then cs
  else ((orderMarks (cs.flatMap (decompose nesting))).foldl Composing.take {}).all.reverse

end Switchboard.Text
