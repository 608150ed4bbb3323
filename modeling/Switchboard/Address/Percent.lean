import Switchboard.Text.Octets

namespace Switchboard.Address

def highDigit (n : Nat) : Char :=
  if n < 10 then Char.ofNat (0x30 + n) else Char.ofNat (0x37 + n)

def percentByte (b : UInt8) : List Char :=
  ['%', highDigit (b.toNat / 16), highDigit (b.toNat % 16)]

/-- A text with the characters outside ASCII and those of a set written as bytes. -/
def percentEncode (set : Char → Bool) (cs : List Char) : List Char :=
  cs.flatMap fun c =>
    if 0x80 ≤ c.toNat || set c then (String.utf8EncodeChar c).flatMap percentByte else [c]

def digitValue (c : Char) : Option Nat :=
  if '0' ≤ c ∧ c ≤ '9' then some (c.toNat - 0x30)
  else if 'a' ≤ c ∧ c ≤ 'f' then some (c.toNat - 0x57)
  else if 'A' ≤ c ∧ c ≤ 'F' then some (c.toNat - 0x37)
  else none

/-- The bytes of a text in which a percent sign before two digits stands for a byte. -/
def percentDecode : List Char → List UInt8
  | '%' :: a :: b :: rest =>
    match digitValue a, digitValue b with
    | some x, some y => UInt8.ofNat (16 * x + y) :: percentDecode rest
    | _, _ => String.utf8EncodeChar '%' ++ percentDecode (a :: b :: rest)
  | c :: rest => String.utf8EncodeChar c ++ percentDecode rest
  | [] => []

def isControl (c : Char) : Bool := c.toNat < 0x20 || c.toNat == 0x7F

def offFragment (c : Char) : Bool := isControl c || [' ', '"', '<', '>', '\x60'].contains c

def offQuery (c : Char) : Bool := isControl c || [' ', '"', '#', '<', '>'].contains c

/-- A query of a special scheme may not hold an apostrophe either. -/
def offSpecialQuery (c : Char) : Bool := offQuery c || c == '\''

def offPath (c : Char) : Bool := offFragment c || ['#', '?', '\x7b', '\x7d'].contains c

def offCredentials (c : Char) : Bool :=
  offPath c || ['/', ':', ';', '=', '@', '[', '\\', ']', '^', '|'].contains c

end Switchboard.Address
