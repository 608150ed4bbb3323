import Mathlib.Data.List.TakeWhile
import Switchboard.Address.Reader
import Switchboard.Proofs.Address.Name

namespace Switchboard.Address

variable {cs xs ys before rest : List Char} {d : Char} {user : Credentials} {a : Authority}

def Unended (cs : List Char) : Prop := ∀ c ∈ cs, endsPart true c = false

theorem endsPart_iff {c : Char} : endsPart true c = true ↔ c ∈ ['/', '\\', '?', '#'] := by
  simp [endsPart, isSlash, or_assoc]

theorem isSpecial_ws : isSpecial "ws" = true := by decide

/-! ### Credentials -/

theorem takeWhile_unended (h : Unended xs) (hd : endsPart true d = true) (ys : List Char) :
    (xs ++ d :: ys).takeWhile (!endsPart true ·) = xs := by
  have hxs : ∀ c ∈ xs, (!endsPart true c) = true := fun c hc => by simp [h c hc]
  rw [List.takeWhile_append_of_pos hxs, List.takeWhile_cons_of_neg (by simp [hd]),
    List.append_nil]

theorem takeWhile_unended_all (h : Unended xs) : xs.takeWhile (!endsPart true ·) = xs :=
  List.takeWhile_eq_self_iff.mpr fun c hc => by simp [h c hc]

/-- Credentials are looked for up to the end of an authority only. -/
theorem splitCredentials_append (h : Unended xs) (hd : endsPart true d = true) (ys : List Char) :
    splitCredentials true (xs ++ d :: ys) =
      (splitCredentials true xs).map fun c => (c.1, c.2 ++ d :: ys) := by
  simp only [splitCredentials, takeWhile_unended h hd, takeWhile_unended_all h]
  split
  · rfl
  · rw [Option.map_some, List.take_append_of_le_length (by omega),
      List.drop_append_of_le_length (by omega)]

theorem splitCredentials_none (h : Unended xs) (hat : '@' ∉ xs) :
    splitCredentials true xs = none := by
  have hall : ∀ c ∈ xs.reverse, (c != '@') = true := by
    intro c hc
    simpa using fun he : c = '@' => hat (he ▸ List.mem_reverse.mp hc)
  simp [splitCredentials, takeWhile_unended_all h, List.takeWhile_eq_self_iff.mpr hall]

/-- Credentials go on to the last `@`, so that a user name may hold one itself. -/
theorem splitCredentials_some {name : List Char} (h : Unended (name ++ '@' :: rest))
    (hat : '@' ∉ rest) : splitCredentials true (name ++ '@' :: rest) = some (name, rest) := by
  have hall : ∀ c ∈ rest.reverse, (c != '@') = true := by
    intro c hc
    simpa using fun he : c = '@' => hat (he ▸ List.mem_reverse.mp hc)
  have hafter : ((name ++ '@' :: rest).reverse.takeWhile (· != '@')).reverse = rest := by
    rw [List.reverse_append, List.reverse_cons, List.append_assoc,
      List.takeWhile_append_of_pos hall]
    simp
  have hsize : (name ++ '@' :: rest).length - rest.length = name.length + 1 := by
    simp only [List.length_append, List.length_cons]
    omega
  have hdrop : (name ++ '@' :: rest).drop (name.length + 1) = rest := by
    rw [← List.drop_drop, List.drop_left]
    rfl
  simp only [splitCredentials, takeWhile_unended_all h, hafter, hsize]
  simp [hdrop]

/-- The last `@` of a text. -/
theorem exists_last_at (h : '@' ∈ xs) : ∃ name rest, xs = name ++ '@' :: rest ∧ '@' ∉ rest := by
  obtain ⟨as, bs, hsplit, hfirst⟩ := List.eq_append_cons_of_mem (List.mem_reverse.mpr h)
  refine ⟨bs.reverse, as.reverse, ?_, by simpa using hfirst⟩
  have hback := congrArg List.reverse hsplit
  simpa using hback

theorem percentEncode_eq_nil {set : Char → Bool} :
    percentEncode set cs = [] ↔ cs = [] := by
  cases cs with
  | nil => simp [percentEncode]
  | cons c cs =>
    have hbytes : (String.utf8EncodeChar c).flatMap percentByte ≠ [] := by
      have hne := String.utf8EncodeChar_ne_nil (c := c)
      obtain ⟨b, bs, hb⟩ := List.exists_cons_of_ne_nil hne
      simp [hb, percentByte]
    simp only [percentEncode, List.flatMap_cons, List.append_eq_nil_iff, reduceCtorEq, iff_false,
      not_and]
    intro hnil
    split at hnil
    · exact absurd hnil hbytes
    · cases hnil

/-- Nobody is named by nothing, or by what begins with a colon. -/
theorem readCredentials_user : (readCredentials cs).user = "" ↔ cs.takeWhile (· != ':') = [] := by
  have hempty : ∀ ds : List Char, String.ofList ds = "" ↔ ds = [] := fun ds =>
    ⟨fun h => by simpa using congrArg String.toList h, fun h => by rw [h]⟩
  simp only [readCredentials, hempty, percentEncode_eq_nil]

/-! ### Host and port -/

/-- A host is looked for up to the end of an authority, even if a bracket is open there. -/
theorem splitHost_append (hxs : Unended xs) (hd : endsPart true d = true) (bracketed : Bool)
    (ys : List Char) : splitHost true bracketed (xs ++ d :: ys) =
      ((splitHost true bracketed xs).1, (splitHost true bracketed xs).2 ++ d :: ys) := by
  induction xs generalizing bracketed with
  | nil => simp [splitHost, hd]
  | cons c xs ih =>
    obtain ⟨hc, hxs⟩ := List.forall_mem_cons.mp hxs
    rw [List.cons_append]
    simp only [splitHost, hc, Bool.false_or, ih hxs]
    split <;> rfl

/-- A host goes on to the end or up to a colon. -/
theorem splitHost_cases (hxs : Unended xs) (bracketed : Bool) :
    splitHost true bracketed xs = (xs, []) ∨
      ∃ name digits, splitHost true bracketed xs = (name, ':' :: digits) ∧
        xs = name ++ ':' :: digits := by
  induction xs generalizing bracketed with
  | nil => exact .inl rfl
  | cons c xs ih =>
    obtain ⟨hc, hxs⟩ := List.forall_mem_cons.mp hxs
    simp only [splitHost, hc, Bool.false_or]
    split
    · rename_i hcolon
      obtain rfl : c = ':' := by
        simp only [Bool.and_eq_true, beq_iff_eq] at hcolon
        exact hcolon.1
      exact .inr ⟨[], xs, rfl, rfl⟩
    · rcases ih hxs (c == '[' || bracketed && c != ']') with h | ⟨name, digits, h, rfl⟩
      · exact .inl (by rw [h])
      · exact .inr ⟨c :: name, digits, by rw [h], rfl⟩

theorem isDigit_iff {c : Char} : isDigit c = true ↔ c.isDigit = true := by
  simp [isDigit, Char.isDigit, Char.le_def]

theorem readPort_append (hxs : Unended xs) (hd : endsPart true d = true) (ys : List Char) :
    readPort "ws" (xs ++ d :: ys) = (readPort "ws" xs).map fun p => (p.1, p.2 ++ d :: ys) := by
  have hends : d = '/' ∨ d = '\\' ∨ d = '?' ∨ d = '#' := by
    simpa using endsPart_iff.mp hd
  have hdigit : isDigit d = false := by rcases hends with rfl | rfl | rfl | rfl <;> decide
  have hcolon : d ≠ ':' := by rcases hends with rfl | rfl | rfl | rfl <;> decide
  cases xs with
  | nil => simp [readPort, hcolon, Except.map]
  | cons c xs =>
    by_cases hc : c = ':'
    · subst hc
      have htake : (xs ++ d :: ys).takeWhile isDigit = xs.takeWhile isDigit := by
        rw [List.takeWhile_append]
        split
        · rename_i hall
          simp [hdigit, (List.takeWhile_prefix _).eq_of_length hall]
        · rfl
      have hdrop : (xs ++ d :: ys).dropWhile isDigit = xs.dropWhile isDigit ++ d :: ys := by
        rw [List.dropWhile_append]
        split
        · rename_i hnil
          simp [hdigit, List.isEmpty_iff.mp hnil]
        · rfl
      have hbad : (xs.dropWhile isDigit ++ d :: ys).head?.any
            (fun c => !(['/', '\\', '?', '#'].contains c)) =
          (xs.dropWhile isDigit).head?.any fun c => !(['/', '\\', '?', '#'].contains c) := by
        cases xs.dropWhile isDigit with
        | nil => rcases hends with rfl | rfl | rfl | rfl <;> rfl
        | cons => rfl
      simp only [List.cons_append, readPort, htake, hdrop, hbad]
      split
      · rfl
      · split <;> rfl
    · simp [readPort, hc, Except.map]

def readHostPort (user : Credentials) (cs : List Char) : Except Fault (Authority × List Char) :=
  if (splitHost true false cs).1 = [] then .error .emptyHost
  else do
    let host ← readHost (splitHost true false cs).1
    let (port, rest) ← readPort "ws" (splitHost true false cs).2
    return (⟨user, host, port⟩, rest)

theorem readAuthority_none (h : splitCredentials true cs = none) :
    readAuthority "ws" cs = readHostPort {} cs := by
  simp only [readAuthority, isSpecial_ws, h, readHostPort]
  by_cases hname : (splitHost true false cs).1 = []
  · simp [hname]
    rfl
  · simp [hname]

theorem readAuthority_some (h : splitCredentials true cs = some (before, rest)) :
    readAuthority "ws" cs = readHostPort (readCredentials before) rest := by
  simp only [readAuthority, isSpecial_ws, h, readHostPort]
  cases before with
  | cons b before =>
    by_cases hname : (splitHost true false rest).1 = []
    · simp [hname]
      rfl
    · simp [hname]
  | nil =>
    cases rest with
    | nil =>
      simp [splitHost]
      rfl
    | cons c rest =>
      cases hc : endsPart true c with
      | true =>
        -- An end where the host should begin leaves no host.
        simp [splitHost, hc]
        rfl
      | false =>
        by_cases hname : (splitHost true false (c :: rest)).1 = []
        · simp [hc, hname]
          rfl
        · simp [hc, hname]
          rfl

/-- What stands behind the end of an authority says nothing about it. -/
theorem readHostPort_append (hxs : Unended xs) (hd : endsPart true d = true) (ys : List Char) :
    readHostPort user (xs ++ d :: ys) =
      (readHostPort user xs).map fun r => (r.1, r.2 ++ d :: ys) := by
  have hport : Unended (splitHost true false xs).2 := by
    rcases splitHost_cases hxs false with h | ⟨name, digits, h, rfl⟩
    · simp [h, Unended]
    · rw [h]
      exact fun c hc => hxs c (List.mem_append_right _ hc)
  simp only [readHostPort, splitHost_append hxs hd, readPort_append hport hd]
  split
  · rfl
  · cases readHost (splitHost true false xs).1 with
    | error => rfl
    | ok host =>
      cases readPort "ws" (splitHost true false xs).2 with
      | error => rfl
      | ok port => rfl

/-- An authority is read the same whatever address it stands in. -/
theorem readAuthority_append (hxs : Unended xs) (hd : endsPart true d = true) (ys : List Char) :
    readAuthority "ws" (xs ++ d :: ys) =
      (readAuthority "ws" xs).map fun r => (r.1, r.2 ++ d :: ys) := by
  have hsplit := splitCredentials_append hxs hd ys
  by_cases hat : '@' ∈ xs
  · obtain ⟨name, rest, rfl, hlast⟩ := exists_last_at hat
    have hrest : Unended rest := fun c hc => hxs c (by simp [hc])
    have hfirst := splitCredentials_some hxs hlast
    rw [hfirst, Option.map_some] at hsplit
    rw [readAuthority_some hsplit, readAuthority_some hfirst, readHostPort_append hrest hd]
  · have hnone := splitCredentials_none hxs hat
    rw [hnone, Option.map_none] at hsplit
    rw [readAuthority_none hsplit, readAuthority_none hnone, readHostPort_append hxs hd]

/-! ### Ports -/

theorem digitsIn_ten (h : ∀ c ∈ cs, c.isDigit = true) :
    digitsIn 10 cs = some (Nat.ofDigitChars 10 cs 0) := by
  have hfold : ∀ n, cs.foldlM (fun n c => do
      let d ← digitValue c
      if d < 10 then some (n * 10 + d) else none) n = some (Nat.ofDigitChars 10 cs n) := by
    induction cs with
    | nil => simp
    | cons c cs ih =>
      intro n
      obtain ⟨hc, hcs⟩ := List.forall_mem_cons.mp h
      have hrange : 0x30 ≤ c.toNat ∧ c.toNat ≤ 0x39 := by
        simpa [Char.isDigit, Char.le_def, UInt32.le_iff_toNat_le] using hc
      have hvalue : digitValue c = some (c.toNat - 0x30) := by
        have hdigit : '0' ≤ c ∧ c ≤ '9' := by
          simpa [Char.le_def, UInt32.le_iff_toNat_le] using hrange
        rw [digitValue, if_pos hdigit]
      have hlt : c.toNat - 0x30 < 10 := by omega
      have hrest := ih hcs (n * 10 + (c.toNat - 0x30))
      rw [List.foldlM_cons, Nat.ofDigitChars_cons, Nat.mul_comm 10 n]
      simp only [hvalue, Option.bind_eq_bind, Option.bind_some, hlt, if_true] at hrest ⊢
      exact hrest
  exact hfold 0

theorem isDigit_of_mem_toDigits {n : Nat} {c : Char} (h : c ∈ Nat.toDigits 10 n) :
    c.isDigit = true :=
  Nat.isDigit_of_mem_toDigits (by omega) (by omega) h

theorem digitsIn_toDigits (n : Nat) : digitsIn 10 (Nat.toDigits 10 n) = some n := by
  rw [digitsIn_ten fun c => isDigit_of_mem_toDigits, Nat.ofDigitChars_ten_toDigits]

theorem ne_of_isDigit {c : Char} (h : c.isDigit = true) :
    c ≠ ':' ∧ c ≠ '@' ∧ c ≠ ']' ∧ endsPart true c = false := by
  refine ⟨?_, ?_, ?_, ?_⟩
  · rintro rfl; cases h
  · rintro rfl; cases h
  · rintro rfl; cases h
  · rw [Bool.eq_false_iff]
    intro hends
    have hmem := endsPart_iff.mp hends
    simp only [List.mem_cons, List.not_mem_nil, or_false] at hmem
    rcases hmem with rfl | rfl | rfl | rfl <;> cases h

/-- A port is made of digits, and nothing follows it. -/
theorem readPort_colon {digits : List Char} {port : Option Nat} (hxs : Unended digits)
    (h : readPort "ws" (':' :: digits) = .ok (port, rest)) :
    (∀ c ∈ digits, c.isDigit = true) ∧ rest = [] ∧
      (digits ≠ [] → (port <|> some 80) = some ((digitsIn 10 digits).getD 0)) := by
  simp only [readPort] at h
  split at h
  · cases h
  · rename_i hgood
    have hempty : digits.dropWhile isDigit = [] := by
      cases hdrop : digits.dropWhile isDigit with
      | nil => rfl
      | cons c cs =>
        have hc : endsPart true c = false :=
          hxs c ((List.dropWhile_suffix _).mem (hdrop ▸ List.mem_cons_self))
        have hbad : (!(['/', '\\', '?', '#'].contains c)) = true := by
          rw [Bool.eq_false_iff, Ne, endsPart_iff] at hc
          simpa using hc
        rw [hdrop] at hgood
        exact absurd (Or.inr hbad) hgood
    have hdigits : ∀ c ∈ digits, c.isDigit = true := fun c hc =>
      isDigit_iff.mp (List.dropWhile_eq_nil_iff.mp hempty c hc)
    have htake : digits.takeWhile isDigit = digits :=
      List.takeWhile_eq_self_iff.mpr fun c hc => isDigit_iff.mpr (hdigits c hc)
    have hdefault : defaultPort "ws" = some 80 := by decide
    simp only [htake, hempty, hdefault] at h
    split at h
    · rename_i hnone
      cases h
      refine ⟨hdigits, rfl, fun hne => ?_⟩
      exact hnone.resolve_left hne
    · cases h
      exact ⟨hdigits, rfl, fun _ => rfl⟩

/-- What stands before and after the last of a character. -/
theorem append_cons_last {c : Char} {as bs as' bs' : List Char}
    (h : as ++ c :: bs = as' ++ c :: bs') (hbs : c ∉ bs) (hbs' : c ∉ bs') : as = as' ∧ bs = bs' := by
  rcases List.append_eq_append_iff.mp h with ⟨zs, rfl, htail⟩ | ⟨zs, rfl, htail⟩
  · cases zs with
    | nil => simpa using htail
    | cons z zs =>
      obtain ⟨rfl, rfl⟩ := List.cons.inj htail
      simp at hbs
  · cases zs with
    | nil => simpa using htail.symm
    | cons z zs =>
      obtain ⟨rfl, rfl⟩ := List.cons.inj htail
      simp at hbs'

theorem digitValue_colon : digitValue ':' = none := by decide

/-- A colon is a byte of its own, also behind a percent sign. -/
theorem colon_mem_percentDecode (h : ':' ∈ cs) : 0x3A ∈ percentDecode cs := by
  have hcolon : (0x3A : UInt8) ∈ String.utf8EncodeChar ':' := by decide
  have hne : ∀ {c z}, digitValue c = some z → ':' ≠ c := by
    rintro c z hz rfl
    rw [digitValue_colon] at hz
    cases hz
  induction cs using percentDecode.induct with
  | case1 a b rest y x hx hy ih =>
    simp only [percentDecode, hx, hy]
    simp only [List.mem_cons, hne hx, hne hy, false_or] at h
    exact List.mem_cons_of_mem _ (ih (h.resolve_left (by decide)))
  | case2 a b rest hnot ih =>
    have hrest := ih ((List.mem_cons.mp h).resolve_left (by decide))
    rw [percentDecode]
    split
    · rename_i hx hy
      exact absurd hy (hnot _ _ hx)
    · exact List.mem_append_right _ hrest
  | case3 c rest hnot ih =>
    rw [percentDecode.eq_2 c rest hnot, List.mem_append]
    rcases List.mem_cons.mp h with rfl | h
    · exact .inl hcolon
    · exact .inr (ih h)
  | case4 => cases h

/-- A byte in ASCII is a character. -/
theorem eq_ofNat_of_mem {c : Char} {b : UInt8} (hb : b.toNat < 0x80)
    (h : b ∈ String.utf8EncodeChar c) : c.toNat = b.toNat := by
  have hencodes := Text.encodes_char 0 c
  generalize hseq : String.utf8EncodeChar c = seq at h hencodes
  generalize c.toNat = n at hencodes
  cases hencodes with
  | single ha => rw [List.mem_singleton.mp h]
  | several ha hs hlow hhigh htail hleft hn =>
    have hsecond : ∀ {index n s}, Text.Sequence.begin? index n = some s → 0x80 ≤ s.low := by
      intro index n s hbegin
      unfold Text.Sequence.begin? at hbegin
      split_ifs at hbegin <;> cases hbegin <;> simp
    have hlow' := hsecond hs
    rcases List.mem_cons.mp h with rfl | h
    · omega
    · rcases List.mem_cons.mp h with rfl | h
      · omega
      · exact absurd (htail b h).1 (by omega)

/-- Only a colon has the byte of a colon among its bytes. -/
theorem eq_colon_of_mem {c : Char} (h : 0x3A ∈ String.utf8EncodeChar c) : c = ':' :=
  Char.toNat_inj.mp (eq_ofNat_of_mem (b := 0x3A) (by decide) h)

/-- No host has a colon in it, unless it ends in a bracket. -/
theorem readHost_colon {name : List Char} (hcolon : ':' ∈ name) (hlast : name.getLast? ≠ some ']')
    (host : Host) : readHost name ≠ .ok host := by
  have hnamed : (Text.ofOctets (percentDecode name)).toOption.bind plainName = none := by
    cases hread : Text.ofOctets (percentDecode name) with
    | error garble => rfl
    | ok cs =>
      have hbytes := Text.ofOctets_eq_ok_iff.mp hread
      have hmem := hbytes ▸ colon_mem_percentDecode hcolon
      obtain ⟨c, hc, hbyte⟩ := List.mem_flatMap.mp hmem
      exact plainName_colon (eq_colon_of_mem hbyte ▸ hc)
  cases name with
  | nil => cases hcolon
  | cons c cs =>
    by_cases hc : c = '['
    · subst hc
      have hne : cs.getLast? ≠ some ']' := by
        cases cs with
        | nil => simp
        | cons d ds => simpa using hlast
      simp [readHost, readBracketed, hne]
    · unfold readHost
      split
      · rename_i heq
        exact absurd (List.cons.inj heq).1 hc
      · rw [hnamed]
        intro h
        cases h

/-- All that is read of a host and a port, if both are fine: nothing is left, and the port is what
stands behind a colon. -/
theorem readHostPort_ok (hxs : Unended xs) (h : readHostPort user xs = .ok (a, rest)) :
    rest = [] ∧ a.credentials = user ∧ ∃ name, readHost name = .ok a.host ∧
      (xs = name ∨ ∃ digits, xs = name ++ ':' :: digits ∧ (∀ c ∈ digits, c.isDigit = true) ∧
        (digits ≠ [] → (a.port <|> some 80) = some ((digitsIn 10 digits).getD 0))) := by
  rw [readHostPort] at h
  split at h
  · cases h
  · rename_i hname
    cases hhost : readHost (splitHost true false xs).1 with
    | error fault =>
      rw [hhost] at h
      cases h
    | ok host =>
      rcases splitHost_cases hxs false with hsplit | ⟨name, digits, hsplit, rfl⟩
      · rw [hsplit] at h hhost
        simp only [hhost] at h
        cases h
        exact ⟨rfl, rfl, xs, hhost, .inl rfl⟩
      · have hdigits : Unended digits := fun c hc => hxs c (by simp [hc])
        rw [hsplit] at h hhost
        cases hport : readPort "ws" (':' :: digits) with
        | error fault =>
          simp only [hhost, hport] at h
          cases h
        | ok port =>
          simp only [hhost, hport] at h
          cases h
          obtain ⟨hall, hrest, hnumber⟩ := readPort_colon hdigits hport
          exact ⟨hrest, rfl, name, hhost, .inr ⟨digits, rfl, hall, hnumber⟩⟩

/-- Whoever comes before the last `@` of a text has no name. -/
def Nameless (cs : List Char) : Prop :=
  ∀ name rest, cs = name ++ '@' :: rest → '@' ∉ rest → name.takeWhile (· != ':') = []

/-- An authority that is read is a host and a port, behind the last `@` if it holds one. -/
theorem readAuthority_ok (hxs : Unended xs) (h : readAuthority "ws" xs = .ok (a, rest)) :
    ∃ user place, readHostPort user place = .ok (a, rest) ∧ Unended place ∧
      (('@' ∉ xs ∧ place = xs ∧ user = {}) ∨
        ∃ name, xs = name ++ '@' :: place ∧ '@' ∉ place ∧ user = readCredentials name) := by
  by_cases hat : '@' ∈ xs
  · obtain ⟨name, place, rfl, hlast⟩ := exists_last_at hat
    rw [readAuthority_some (splitCredentials_some hxs hlast)] at h
    exact ⟨_, place, h, fun c hc => hxs c (by simp [hc]), .inr ⟨name, rfl, hlast, rfl⟩⟩
  · rw [readAuthority_none (splitCredentials_none hxs hat)] at h
    exact ⟨_, xs, h, hxs, .inl ⟨hat, rfl, rfl⟩⟩

/-- An authority is read up to its end. -/
theorem readAuthority_rest (hxs : Unended xs) (h : readAuthority "ws" xs = .ok (a, rest)) :
    rest = [] := by
  obtain ⟨user, place, hplace, hended, -⟩ := readAuthority_ok hxs h
  exact (readHostPort_ok hended hplace).1

theorem toDigits_unended {n : Nat} {c : Char} (h : c ∈ Nat.toDigits 10 n) :
    c ≠ ':' ∧ c ≠ '@' ∧ c ≠ ']' ∧ endsPart true c = false :=
  ne_of_isDigit (isDigit_of_mem_toDigits h)

theorem host_port_unended {host : List Char} (hhost : Unended host) (n : Nat) :
    Unended (host ++ ':' :: Nat.toDigits 10 n) := by
  intro c hc
  rcases List.mem_append.mp hc with hc | hc
  · exact hhost c hc
  · rcases List.mem_cons.mp hc with rfl | hc
    · decide
    · exact (toDigits_unended hc).2.2.2

/-- The port behind a host is the one that is contacted, whatever the host is. -/
theorem readHostPort_port {host : List Char} {n : Nat} (hhost : Unended host)
    (h : readHostPort user (host ++ ':' :: Nat.toDigits 10 n) = .ok (a, rest)) :
    (a.port <|> some 80) = some n ∧ a.credentials = user := by
  obtain ⟨-, huser, name, hname, rfl | ⟨digits, hsplit, hdigits, hport⟩⟩ :=
    readHostPort_ok (host_port_unended hhost n) h
  · -- A host that swallows the colon before the port is none.
    have hlast : (host ++ ':' :: Nat.toDigits 10 n).getLast? ≠ some ']' := by
      rw [List.getLast?_append_of_ne_nil _ (by simp),
        List.getLast?_cons_of_ne_nil Nat.toDigits_ne_nil]
      intro hbracket
      exact (toDigits_unended (List.mem_of_getLast? hbracket)).2.2.1 rfl
    exact absurd hname (readHost_colon (by simp) hlast _)
  · obtain ⟨-, rfl⟩ := append_cons_last hsplit
      (fun hc => (toDigits_unended hc).1 rfl) (fun hc => (ne_of_isDigit (hdigits _ hc)).1 rfl)
    rw [digitsIn_toDigits] at hport
    exact ⟨hport Nat.toDigits_ne_nil, huser⟩

/-- Of a host and a port, the host may name a user, and the port is the one that is contacted. -/
theorem readAuthority_port {host : List Char} {n : Nat} (hhost : Unended host)
    (h : readAuthority "ws" (host ++ ':' :: Nat.toDigits 10 n) = .ok (a, rest)) :
    (a.port <|> some 80) = some n ∧ (a.credentials.user = "" ↔ Nameless host) := by
  have hended := host_port_unended hhost n
  have hdigits : '@' ∉ ':' :: Nat.toDigits 10 n := by
    intro hc
    rcases List.mem_cons.mp hc with hc | hc
    · cases hc
    · exact (toDigits_unended hc).2.1 rfl
  by_cases hat : '@' ∈ host
  · obtain ⟨name, place, rfl, hlast⟩ := exists_last_at hat
    have hplace : '@' ∉ place ++ ':' :: Nat.toDigits 10 n := fun hc =>
      (List.mem_append.mp hc).elim hlast hdigits
    rw [List.append_assoc, List.cons_append] at h hended
    rw [readAuthority_some (splitCredentials_some hended hplace)] at h
    obtain ⟨hport, huser⟩ := readHostPort_port (fun c hc => hhost c (by simp [hc])) h
    refine ⟨hport, ?_⟩
    rw [huser, readCredentials_user]
    constructor
    · intro hnone name' place' heq hlast'
      obtain ⟨rfl, rfl⟩ := append_cons_last heq hlast hlast'
      exact hnone
    · exact fun hnone => hnone name place rfl hlast
  · have hnobody : '@' ∉ host ++ ':' :: Nat.toDigits 10 n := fun hc =>
      (List.mem_append.mp hc).elim hat hdigits
    rw [readAuthority_none (splitCredentials_none hended hnobody)] at h
    obtain ⟨hport, huser⟩ := readHostPort_port hhost h
    refine ⟨hport, fun _ name place heq => absurd ?_ hat, fun _ => by rw [huser]⟩
    rw [heq]
    simp

end Switchboard.Address
