import Mathlib.Data.List.Basic
import Switchboard.Text.Octets

/-!
Reading bytes as text. The bytes of a text read as that text, and no other bytes do. In between
stands `Encodes`, the forms that the bytes of one character take.
-/

namespace Switchboard.Text

variable {index n : Nat} {b : UInt8} {seq tail bytes rest : List UInt8} {cs : List Char}
  {s : Sequence}

def isInner (b : UInt8) : Prop := 0x80 ≤ b.toNat ∧ b.toNat ≤ 0xBF

def push (bits : Nat) (b : UInt8) : Nat := bits * 0x40 + b.toNat % 0x40

/-- The bytes of one character, read from an index on, and the number they come to. -/
inductive Encodes (index : Nat) : List UInt8 → Nat → Prop
  | single {a : UInt8} (ha : a.toNat < 0x80) : Encodes index [a] a.toNat
  | several {a b : UInt8} {tail : List UInt8} {s : Sequence} {n : Nat} (ha : 0x80 ≤ a.toNat)
      (hs : Sequence.begin? index a.toNat = some s) (hlow : s.low ≤ b.toNat)
      (hhigh : b.toNat ≤ s.high) (htail : ∀ x ∈ tail, isInner x) (hleft : tail.length + 1 = s.left)
      (hn : n = tail.foldl push (push s.bits b)) : Encodes index (a :: b :: tail) n

/-- A sequence under way is read up to its last byte. -/
theorem readOctets_within (hlow : s.low ≤ b.toNat) (hhigh : b.toNat ≤ s.high)
    (htail : ∀ x ∈ tail, isInner x) (hleft : tail.length + 1 = s.left) :
    readOctets index (some s) (b :: (tail ++ rest)) =
      (readOctets (index + s.left) none rest).map
        (Char.ofNat (tail.foldl push (push s.bits b)) :: ·) := by
  induction tail generalizing index s b with
  | nil =>
    have hend : (s.extend b.toNat).left = 0 := by simp [Sequence.extend, ← hleft]
    rw [List.nil_append, readOctets, if_pos ⟨hlow, hhigh⟩, if_pos hend, ← hleft]
    rfl
  | cons x tail ih =>
    have hmore : (s.extend b.toNat).left = tail.length + 1 := by simp [Sequence.extend, ← hleft]
    obtain ⟨hx, htail⟩ := List.forall_mem_cons.mp htail
    have hindex : index + s.left = index + 1 + (s.extend b.toNat).left := by
      rw [hmore, ← hleft, List.length_cons]
      omega
    rw [readOctets, if_pos ⟨hlow, hhigh⟩, if_neg (by omega), List.cons_append,
      ih hx.1 hx.2 htail hmore.symm, hindex]
    rfl

/-- What was read of a sequence under way. -/
theorem within_of_ok (hs : 0 < s.left) (h : readOctets index (some s) bytes = .ok cs) :
    ∃ b tail rest, bytes = b :: (tail ++ rest) ∧ s.low ≤ b.toNat ∧ b.toNat ≤ s.high ∧
      (∀ x ∈ tail, isInner x) ∧ tail.length + 1 = s.left := by
  induction bytes generalizing index s cs with
  | nil => simp [readOctets] at h
  | cons b bytes ih =>
    rw [readOctets] at h
    simp only at h
    split at h
    · next hb =>
      split at h
      · next hend =>
        have hleft : s.left - 1 = 0 := hend
        exact ⟨b, [], bytes, rfl, hb.1, hb.2, nofun, by simp; omega⟩
      · next hmore =>
        have hleft : (s.extend b.toNat).left = s.left - 1 := rfl
        obtain ⟨x, tail, rest, rfl, hlow, hhigh, htail, hlen⟩ := ih (by omega) h
        exact ⟨b, x :: tail, rest, rfl, hb.1, hb.2, List.forall_mem_cons.mpr ⟨⟨hlow, hhigh⟩, htail⟩,
          by simp; omega⟩
    · contradiction

/-- The bytes of one character are read as it, and the rest after it. -/
theorem readOctets_encodes (h : Encodes index seq n) (rest : List UInt8) :
    readOctets index none (seq ++ rest) =
      (readOctets (index + seq.length) none rest).map (Char.ofNat n :: ·) := by
  cases h with
  | single ha =>
    rw [List.singleton_append, readOctets, if_pos ha]
    rfl
  | @several a b tail s _ ha hs hlow hhigh htail hleft hn =>
    have hindex : index + (a :: b :: tail).length = index + 1 + s.left := by
      rw [← hleft, List.length_cons, List.length_cons]
      omega
    rw [List.cons_append, List.cons_append, readOctets, if_neg (by omega)]
    simp only [hs]
    rw [readOctets_within hlow hhigh htail hleft, hindex, hn]

theorem begin?_two (h : 0xC2 ≤ n ∧ n ≤ 0xDF) :
    Sequence.begin? index n = some ⟨index, 1, 1, 0x80, 0xBF, n % 0x20⟩ := by
  rw [Sequence.begin?, if_pos h]

/-- The first byte of three. Shorter characters and surrogates bound the second one. -/
theorem begin?_three (h : 0xE0 ≤ n ∧ n ≤ 0xEF) :
    Sequence.begin? index n = some ⟨index, 1, 2, if n = 0xE0 then 0xA0 else 0x80,
      if n = 0xED then 0x9F else 0xBF, n % 0x10⟩ := by
  unfold Sequence.begin?
  split_ifs <;> first | omega | rfl

/-- The first byte of four. Shorter characters and the last character bound the second one. -/
theorem begin?_four (h : 0xF0 ≤ n ∧ n ≤ 0xF4) :
    Sequence.begin? index n = some ⟨index, 1, 3, if n = 0xF0 then 0x90 else 0x80,
      if n = 0xF4 then 0x8F else 0xBF, n % 8⟩ := by
  unfold Sequence.begin?
  split_ifs <;> first | omega | rfl

/-- No character begins with an inner byte, in a longer form than it needs, or beyond the last one.
-/
theorem begin?_none (h : n < 0xC2 ∨ 0xF4 < n) : Sequence.begin? index n = none := by
  unfold Sequence.begin?
  split_ifs <;> first | omega | rfl

theorem begin?_left (h : Sequence.begin? index n = some s) : 0 < s.left := by
  unfold Sequence.begin? at h
  split_ifs at h <;> cases h <;> exact Nat.succ_pos _

/-- Bytes that are read begin with those of a character. -/
theorem encodes_of_ok (hne : bytes ≠ []) (h : readOctets index none bytes = .ok cs) :
    ∃ seq n rest, bytes = seq ++ rest ∧ Encodes index seq n := by
  cases bytes with
  | nil => exact absurd rfl hne
  | cons a bytes =>
    rw [readOctets] at h
    split at h
    · next ha => exact ⟨[a], _, bytes, rfl, .single ha⟩
    · next ha =>
      split at h
      · next s hs =>
        obtain ⟨b, tail, rest, rfl, hlow, hhigh, htail, hleft⟩ := within_of_ok (begin?_left hs) h
        exact ⟨a :: b :: tail, _, rest, rfl, .several (by omega) hs hlow hhigh htail hleft rfl⟩
      · contradiction

section Forms

variable {a b c d : UInt8}

theorem Encodes.two (ha : 0xC2 ≤ a.toNat ∧ a.toNat ≤ 0xDF) (hb : isInner b)
    (hn : n = a.toNat % 0x20 * 0x40 + b.toNat % 0x40) : Encodes index [a, b] n :=
  .several (by omega) (begin?_two ha) hb.1 hb.2 (fun _ hx => absurd hx List.not_mem_nil) rfl hn

theorem Encodes.three (ha : 0xE0 ≤ a.toNat ∧ a.toNat ≤ 0xEF) (hb : isInner b) (hc : isInner c)
    (short : a.toNat = 0xE0 → 0xA0 ≤ b.toNat) (surrogate : a.toNat = 0xED → b.toNat ≤ 0x9F)
    (hn : n = (a.toNat % 0x10 * 0x40 + b.toNat % 0x40) * 0x40 + c.toNat % 0x40) :
    Encodes index [a, b, c] n := by
  obtain ⟨hlow, hhigh⟩ := hb
  refine .several (by omega) (begin?_three ha) ?_ ?_ (by simpa using hc) rfl hn
  · simp only
    split_ifs <;> omega
  · simp only
    split_ifs <;> omega

theorem Encodes.four (ha : 0xF0 ≤ a.toNat ∧ a.toNat ≤ 0xF4) (hb : isInner b) (hc : isInner c)
    (hd : isInner d) (short : a.toNat = 0xF0 → 0x90 ≤ b.toNat)
    (beyond : a.toNat = 0xF4 → b.toNat ≤ 0x8F)
    (hn : n = ((a.toNat % 8 * 0x40 + b.toNat % 0x40) * 0x40 + c.toNat % 0x40) * 0x40 +
      d.toNat % 0x40) :
    Encodes index [a, b, c, d] n := by
  obtain ⟨hlow, hhigh⟩ := hb
  refine .several (by omega) (begin?_four ha) ?_ ?_ (by simpa using ⟨hc, hd⟩) rfl hn
  · simp only
    split_ifs <;> omega
  · simp only
    split_ifs <;> omega

end Forms

theorem toNat_of_ofNat {m : Nat} (h : UInt8.ofNat m = b) (hm : m < 0x100) : b.toNat = m := by
  rw [← h]
  simpa using Nat.mod_eq_of_lt hm

/-- The bytes of a character are read as it. -/
theorem encodes_char (index : Nat) (c : Char) :
    Encodes index (String.utf8EncodeChar c) c.toNat := by
  have hvalid : c.toNat < 0xD800 ∨ 0xDFFF < c.toNat ∧ c.toNat < 0x110000 := c.valid
  have hv : c.val.toNat = c.toNat := rfl
  unfold String.utf8EncodeChar
  rw [hv]
  generalize c.toNat = v at hvalid
  simp only
  -- Each byte is put away as a number, so that only linear arithmetic is left.
  split_ifs with h1 h2 h3
  · generalize ha : UInt8.ofNat v = a
    replace ha := toNat_of_ofNat ha (by omega)
    exact ha ▸ .single (by omega)
  · generalize ha : UInt8.ofNat (v / 64 % 32 + 192) = a
    generalize hb : UInt8.ofNat (v % 64 + 128) = b
    replace ha := toNat_of_ofNat ha (by omega)
    replace hb := toNat_of_ofNat hb (by omega)
    exact .two (by omega) ⟨by omega, by omega⟩ (by omega)
  · generalize ha : UInt8.ofNat (v / 4096 % 16 + 224) = a
    generalize hb : UInt8.ofNat (v / 64 % 64 + 128) = b
    generalize hc : UInt8.ofNat (v % 64 + 128) = c
    replace ha := toNat_of_ofNat ha (by omega)
    replace hb := toNat_of_ofNat hb (by omega)
    replace hc := toNat_of_ofNat hc (by omega)
    exact .three (by omega) ⟨by omega, by omega⟩ ⟨by omega, by omega⟩ (by omega) (by omega)
      (by omega)
  · generalize ha : UInt8.ofNat (v / 262144 % 8 + 240) = a
    generalize hb : UInt8.ofNat (v / 4096 % 64 + 128) = b
    generalize hc : UInt8.ofNat (v / 64 % 64 + 128) = c
    generalize hd : UInt8.ofNat (v % 64 + 128) = d
    replace ha := toNat_of_ofNat ha (by omega)
    replace hb := toNat_of_ofNat hb (by omega)
    replace hc := toNat_of_ofNat hc (by omega)
    replace hd := toNat_of_ofNat hd (by omega)
    exact .four (by omega) ⟨by omega, by omega⟩ ⟨by omega, by omega⟩ ⟨by omega, by omega⟩
      (by omega) (by omega) (by omega)

theorem eq_ofNat {m : Nat} (h : b.toNat = m) : UInt8.ofNat m = b :=
  h ▸ UInt8.ofNat_toNat

theorem val_ofNat (h : n < 0xD800 ∨ 0xDFFF < n ∧ n < 0x110000) :
    (Char.ofNat n).val.toNat = n := by
  rw [Char.ofNat, dif_pos h]
  rfl

section Bytes

variable (h : n < 0xD800 ∨ 0xDFFF < n ∧ n < 0x110000)
include h

theorem utf8EncodeChar_two {a b : UInt8} (hn : 0x80 ≤ n ∧ n ≤ 0x7FF)
    (ha : a.toNat = n / 64 % 32 + 192) (hb : b.toNat = n % 64 + 128) :
    String.utf8EncodeChar (Char.ofNat n) = [a, b] := by
  rw [String.utf8EncodeChar, val_ofNat h, if_neg (by omega), if_pos (by omega), eq_ofNat ha,
    eq_ofNat hb]

theorem utf8EncodeChar_three {a b c : UInt8} (hn : 0x800 ≤ n ∧ n ≤ 0xFFFF)
    (ha : a.toNat = n / 4096 % 16 + 224) (hb : b.toNat = n / 64 % 64 + 128)
    (hc : c.toNat = n % 64 + 128) : String.utf8EncodeChar (Char.ofNat n) = [a, b, c] := by
  rw [String.utf8EncodeChar, val_ofNat h, if_neg (by omega), if_neg (by omega), if_pos (by omega),
    eq_ofNat ha, eq_ofNat hb, eq_ofNat hc]

theorem utf8EncodeChar_four {a b c d : UInt8} (hn : 0x10000 ≤ n)
    (ha : a.toNat = n / 262144 % 8 + 240) (hb : b.toNat = n / 4096 % 64 + 128)
    (hc : c.toNat = n / 64 % 64 + 128) (hd : d.toNat = n % 64 + 128) :
    String.utf8EncodeChar (Char.ofNat n) = [a, b, c, d] := by
  rw [String.utf8EncodeChar, val_ofNat h, if_neg (by omega), if_neg (by omega), if_neg (by omega),
    eq_ofNat ha, eq_ofNat hb, eq_ofNat hc, eq_ofNat hd]

end Bytes

/-- What is read as a character are the bytes of one. -/
theorem Encodes.char (h : Encodes index seq n) : String.utf8EncodeChar (Char.ofNat n) = seq := by
  cases h with
  | @single a ha =>
    rw [String.utf8EncodeChar, val_ofNat (.inl (by omega)), if_pos (by omega), eq_ofNat rfl]
  | @several a b tail s _ ha hs hlow hhigh htail hleft hn =>
    have hlead : 0xC2 ≤ a.toNat ∧ a.toNat ≤ 0xF4 := by
      by_contra hout
      rw [begin?_none (by omega)] at hs
      contradiction
    by_cases h2 : a.toNat ≤ 0xDF
    · rw [begin?_two ⟨hlead.1, h2⟩] at hs
      cases hs
      obtain rfl : tail = [] := List.eq_nil_of_length_eq_zero (Nat.succ.inj hleft)
      simp only [List.foldl_nil, push] at hn hlow hhigh
      exact utf8EncodeChar_two (by omega) (by omega) (by omega) (by omega)
    by_cases h3 : a.toNat ≤ 0xEF
    · rw [begin?_three ⟨by omega, h3⟩] at hs
      cases hs
      obtain ⟨c, rfl⟩ := List.length_eq_one_iff.mp (Nat.succ.inj hleft)
      obtain ⟨hlc, hhc⟩ : isInner c := htail c (by simp)
      simp only [List.foldl_cons, List.foldl_nil, push] at hn hlow hhigh
      split_ifs at hlow hhigh <;>
        exact utf8EncodeChar_three (by omega) (by omega) (by omega) (by omega) (by omega)
    · rw [begin?_four ⟨by omega, hlead.2⟩] at hs
      cases hs
      obtain ⟨c, d, rfl⟩ := List.length_eq_two.mp (Nat.succ.inj hleft)
      obtain ⟨hlc, hhc⟩ : isInner c := htail c (by simp)
      obtain ⟨hld, hhd⟩ : isInner d := htail d (by simp)
      simp only [List.foldl_cons, List.foldl_nil, push] at hn hlow hhigh
      split_ifs at hlow hhigh <;>
        exact utf8EncodeChar_four (by omega) (by omega) (by omega) (by omega) (by omega) (by omega)

/-- The bytes of a text read as that text. -/
theorem readOctets_octets (index : Nat) (cs : List Char) :
    readOctets index none (octets cs) = .ok cs := by
  induction cs generalizing index with
  | nil => rfl
  | cons c cs ih =>
    rw [octets, List.flatMap_cons, readOctets_encodes (encodes_char index c), ← octets, ih,
      Char.ofNat_toNat]
    rfl

/-- Bytes that are read as a text are its bytes. -/
theorem octets_of_readOctets (h : readOctets index none bytes = .ok cs) : bytes = octets cs := by
  induction cs generalizing index bytes with
  | nil =>
    by_contra hne
    obtain ⟨seq, n, rest, rfl, hseq⟩ := encodes_of_ok hne h
    rw [readOctets_encodes hseq] at h
    cases hrest : readOctets (index + seq.length) none rest <;> rw [hrest] at h <;> cases h
  | cons c cs ih =>
    have hne : bytes ≠ [] := by
      rintro rfl
      cases h
    obtain ⟨seq, n, rest, rfl, hseq⟩ := encodes_of_ok hne h
    rw [readOctets_encodes hseq] at h
    cases hrest : readOctets (index + seq.length) none rest <;> rw [hrest] at h <;> cases h
    rw [octets, List.flatMap_cons, hseq.char, ih hrest, octets]

/-- Bytes are read as a text exactly if they are its bytes. -/
theorem ofOctets_eq_ok_iff : ofOctets bytes = .ok cs ↔ bytes = octets cs :=
  ⟨octets_of_readOctets, fun h => h ▸ readOctets_octets 0 cs⟩

/-- The bytes of a string as the library has them. -/
theorem octets_toList (t : String) : octets t.toList = t.toUTF8.data.toList := by
  rw [String.toUTF8, ← String.utf8Encode_toList, List.utf8Encode, List.data_toByteArray]
  rfl

end Switchboard.Text
