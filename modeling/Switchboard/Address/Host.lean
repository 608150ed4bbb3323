import Switchboard.Address.Basic
import Switchboard.Address.Percent
import Switchboard.Address.Name

/-!
Reading hosts. A host whose last label is a number is a number altogether, and one in brackets is a
number of the longer width.
-/

namespace Switchboard.Address

def digitsIn (base : Nat) (cs : List Char) : Option Nat :=
  cs.foldlM (fun n c => do
    let d ← digitValue c
    if d < base then some (n * base + d) else none) 0

/-- The base a part is in, by how it begins, and its digits. -/
def partDigits : List Char → Nat × List Char
  | '0' :: 'x' :: cs => (16, cs)
  | '0' :: 'X' :: cs => (16, cs)
  | '0' :: c :: cs => (8, c :: cs)
  | cs => (10, cs)

def partNumber (cs : List Char) : Option Nat :=
  if cs = [] then none else digitsIn (partDigits cs).1 (partDigits cs).2

/-- The parts of a dotted text. An empty one at the end does not count. -/
def parts (cs : List Char) : List (List Char) :=
  let all := splitAt (· == '.') cs
  if 1 < all.length ∧ all.getLast? = some [] then all.dropLast else all

/-- A text is read as a number if its last part is one, or has digits only. -/
def endsInNumber (cs : List Char) : Bool :=
  match (parts cs).getLast? with
  | some [] => false
  | some last => last.all (fun c => '0' ≤ c && c ≤ '9') || (partNumber last).isSome
  | none => false

/-- Reads a short number: up to four parts, of which the last fills the bytes that are left. -/
def short? (cs : List Char) : Option Nat := do
  let numbers ← (parts cs).mapM partNumber
  let last ← numbers.getLast?
  let heads := numbers.dropLast
  if heads.length ≤ 3 ∧ (∀ n ∈ heads, n < 0x100) ∧ last < Nat.pow 0x100 (4 - heads.length) then
    some (heads.foldl (fun n d => n * 0x100 + d) 0 * Nat.pow 0x100 (4 - heads.length) + last)
  else none

def piece? (cs : List Char) : Option Nat :=
  if cs = [] ∨ 4 < cs.length then none else digitsIn 16 cs

def byte? (cs : List Char) : Option Nat :=
  match cs with
  | [] => none
  | '0' :: _ :: _ => none
  | _ => (digitsIn 10 cs).filter (· < 0x100)

def bytePieces? (cs : List Char) : Option (List Nat) := do
  match ← (splitAt (· == '.') cs).mapM byte? with
  | [a, b, c, d] => some [a * 0x100 + b, c * 0x100 + d]
  | _ => none

/-- Pieces between colons. The last of them may be four bytes. -/
def pieces? : List (List Char) → Option (List Nat)
  | [] => some []
  | [last] => ((piece? last).map ([·])) <|> bytePieces? last
  | p :: ps => do return (← piece? p) :: (← pieces? ps)

def splitGap : List Char → Option (List Char × List Char)
  | ':' :: ':' :: cs => some ([], cs)
  | c :: cs => (splitGap cs).map fun s => (c :: s.1, s.2)
  | [] => none

def side? (cs : List Char) : Option (List Nat) :=
  if cs = [] then some [] else pieces? (splitAt (· == ':') cs)

/-- Reads a long number: eight pieces, or fewer around a double colon. -/
def long? (cs : List Char) : Option (List Nat) :=
  match splitGap cs with
  | none => (pieces? (splitAt (· == ':') cs)).filter (·.length = 8)
  | some (left, right) => do
    let before ← pieces? (if left = [] then [] else splitAt (· == ':') left)
    let after ← side? right
    if before.length + after.length ≤ 7 ∧ !left.contains '.' then
      some (before ++ List.replicate (8 - before.length - after.length) 0 ++ after)
    else none

def readBracketed (cs : List Char) : Except Fault Host :=
  if cs.getLast? = some ']' then
    match long? cs.dropLast with
    | some pieces => .ok (.long pieces)
    | none => .error .badLong
  else .error .badLong

def readHost : List Char → Except Fault Host
  | '[' :: cs => readBracketed cs
  | cs => do
    let name ← match (Text.ofOctets (percentDecode cs)).toOption.bind plainName with
      | some name => .ok name
      | none => .error .badName
    if name = [] then .error .emptyHost
    else if endsInNumber name then
      match short? name with
      | some n => .ok (.short n)
      | none => .error .badShort
    else .ok (.name (String.ofList name))

def offHost (c : Char) : Bool :=
  ['\x00', '\t', '\n', '\r', ' ', '#', '/', ':', '<', '>', '?', '@', '[', '\\', ']', '^', '|'].contains c

/-- Reads the host of another scheme, whose name is taken as it is. -/
def readForeignHost : List Char → Except Fault Host
  | '[' :: cs => readBracketed cs
  | cs =>
    if cs.any offHost then .error .badCharacter
    else .ok (.name (String.ofList (percentEncode isControl cs)))

end Switchboard.Address
