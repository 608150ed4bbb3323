namespace Switchboard.Text

def octets (cs : List Char) : List UInt8 := cs.flatMap String.utf8EncodeChar

/-- Where bytes stop being text: the index of the first faulty sequence, and its length unless the
bytes end within it. -/
structure Garble where
  index : Nat
  length : Option Nat
  deriving DecidableEq

def Garble.message (g : Garble) : String :=
  match g.length with
  | some n =>
    "invalid utf-8 sequence of " ++ toString n ++ " bytes from index " ++ toString g.index
  | none => "incomplete utf-8 byte sequence from index " ++ toString g.index

/-- A sequence under way: where it began, how many bytes were seen and are to come, the bounds of
the next byte and the bits so far. -/
structure Sequence where
  start : Nat
  seen : Nat
  left : Nat
  low : Nat
  high : Nat
  bits : Nat

/-- The sequence a byte begins. The bounds of the second byte keep out longer forms of short
characters, surrogates and numbers beyond the last character. -/
def Sequence.begin? (start byte : Nat) : Option Sequence :=
  if 0xC2 ≤ byte ∧ byte ≤ 0xDF then some ⟨start, 1, 1, 0x80, 0xBF, byte % 0x20⟩
  else if byte = 0xE0 then some ⟨start, 1, 2, 0xA0, 0xBF, byte % 0x10⟩
  else if byte = 0xED then some ⟨start, 1, 2, 0x80, 0x9F, byte % 0x10⟩
  else if 0xE1 ≤ byte ∧ byte ≤ 0xEF then some ⟨start, 1, 2, 0x80, 0xBF, byte % 0x10⟩
  else if byte = 0xF0 then some ⟨start, 1, 3, 0x90, 0xBF, byte % 8⟩
  else if 0xF1 ≤ byte ∧ byte ≤ 0xF3 then some ⟨start, 1, 3, 0x80, 0xBF, byte % 8⟩
  else if byte = 0xF4 then some ⟨start, 1, 3, 0x80, 0x8F, byte % 8⟩
  else none

def Sequence.extend (s : Sequence) (byte : Nat) : Sequence :=
  { s with
    seen := s.seen + 1, left := s.left - 1, low := 0x80, high := 0xBF
    bits := s.bits * 0x40 + byte % 0x40 }

def readOctets (index : Nat) : Option Sequence → List UInt8 → Except Garble (List Char)
  | none, [] => .ok []
  | some s, [] => .error ⟨s.start, none⟩
  | none, b :: bs =>
    let n := b.toNat
    if n < 0x80 then (readOctets (index + 1) none bs).map (Char.ofNat n :: ·)
    else match Sequence.begin? index n with
      | some s => readOctets (index + 1) (some s) bs
      | none => .error ⟨index, some 1⟩
  | some s, b :: bs =>
    let n := b.toNat
    if s.low ≤ n ∧ n ≤ s.high then
      let s := s.extend n
      if s.left = 0 then (readOctets (index + 1) none bs).map (Char.ofNat s.bits :: ·)
      else readOctets (index + 1) (some s) bs
    else .error ⟨s.start, some s.seen⟩

def ofOctets (bytes : List UInt8) : Except Garble (List Char) := readOctets 0 none bytes

end Switchboard.Text
