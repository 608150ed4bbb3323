import Switchboard.Proofs.Json.Lexeme

namespace Switchboard.Json

/-- A value without doubles whose objects have each key once and in order. -/
inductive Value.Regular : Value → Prop
  | null : Regular .null
  | boolean (b : Bool) : Regular (.boolean b)
  | integer (n : Integer) : Regular (.number (.integer n))
  | string (s : String) : Regular (.string s)
  | array {vs : List Value} (items : ∀ v ∈ vs, Regular v) : Regular (.array vs)
  | object {ms : List (String × Value)} (values : ∀ m ∈ ms, Regular m.2)
      (ordered : ms.Pairwise (·.1 < ·.1)) : Regular (.object ms)

theorem Value.Regular.of_keys {ms : List (String × Value)} (values : ∀ m ∈ ms, m.2.Regular)
    (ordered : (ms.map (·.1)).Pairwise (· < ·)) : (Value.object ms).Regular :=
  .object values (List.pairwise_map.mp ordered)

mutual

/-- How many lists and objects are nested in a value. A scalar has depth zero. -/
def Value.depth : Value → Nat
  | .array vs => Value.itemsDepth vs + 1
  | .object ms => Value.membersDepth ms + 1
  | _ => 0

def Value.itemsDepth : List Value → Nat
  | [] => 0
  | v :: vs => max v.depth (Value.itemsDepth vs)

def Value.membersDepth : List (String × Value) → Nat
  | [] => 0
  | (_, v) :: ms => max v.depth (Value.membersDepth ms)

end

theorem itemsDepth_le {vs : List Value} {d : Nat} :
    Value.itemsDepth vs ≤ d ↔ ∀ v ∈ vs, v.depth ≤ d := by
  induction vs with
  | nil => simp [Value.itemsDepth]
  | cons v vs ih => rw [Value.itemsDepth, Nat.max_le, ih, List.forall_mem_cons]

theorem membersDepth_le {ms : List (String × Value)} {d : Nat} :
    Value.membersDepth ms ≤ d ↔ ∀ m ∈ ms, m.2.depth ≤ d := by
  induction ms with
  | nil => simp [Value.membersDepth]
  | cons m ms ih => rw [Value.membersDepth, Nat.max_le, ih, List.forall_mem_cons]

theorem insertMember_last {ms : List (String × α)} {k : String} (h : ∀ m ∈ ms, m.1 < k) (v : α) :
    insertMember k v ms = ms ++ [(k, v)] := by
  induction ms with
  | nil => rfl
  | cons m ms ih =>
    have hm : m.1 < k := h m (by simp)
    have hne : k ≠ m.1 := fun he => String.lt_irrefl k (he ▸ hm)
    rw [insertMember, if_neg (String.lt_asymm hm), if_neg hne, ih (fun n hn => h n (by simp [hn])),
      List.cons_append]

/-- Members that are in order stay as they are. -/
theorem members_ordered {ms : List (String × α)} (h : ms.Pairwise (·.1 < ·.1)) :
    members ms = ms := by
  have hfold : ∀ done : List (String × α), (done ++ ms).Pairwise (·.1 < ·.1) →
      ms.foldl (fun ms m => insertMember m.1 m.2 ms) done = done ++ ms := by
    clear h
    induction ms with
    | nil => simp
    | cons m ms ih =>
      intro done h
      have hlast : ∀ n ∈ done, n.1 < m.1 := fun n hn =>
        (List.pairwise_append.mp h).2.2 n hn m (by simp)
      rw [List.foldl_cons, insertMember_last hlast, ih _ (by simpa using h), List.append_assoc,
        List.singleton_append]
  exact hfold [] h

def Value.listBody : List Value → List Char
  | [] => [']']
  | v :: vs => v.chars ++ Value.itemsChars vs

def Value.objectBody : List (String × Value) → List Char
  | [] => ['}']
  | (k, v) :: ms => stringChars k.toList ++ ':' :: v.chars ++ Value.membersChars ms

theorem chars_array (vs : List Value) : (Value.array vs).chars = '[' :: Value.listBody vs := by
  cases vs <;> simp [Value.chars, Value.listBody]

theorem chars_object (ms : List (String × Value)) :
    (Value.object ms).chars = '{' :: Value.objectBody ms := by
  cases ms <;> simp [Value.chars, Value.objectBody]

/-- Behind an item comes a comma or a bracket, which no number goes on with. -/
theorem itemsChars_ends (vs : List Value) (rest : List Char) :
    continuesNumber (Value.itemsChars vs ++ rest) = false := by
  cases vs <;> rfl

theorem membersChars_ends (ms : List (String × Value)) (rest : List Char) :
    continuesNumber (Value.membersChars ms ++ rest) = false := by
  rcases ms with _ | ⟨⟨k, v⟩, ms⟩ <;> rfl

def opensValue (c : Char) : Bool := isDigit c || c ∈ ['n', 't', 'f', '-', '"', '[', '{']

/-- The text of a value begins with a character that tells its kind. -/
theorem Value.Regular.chars_cons {v : Value} (h : v.Regular) :
    ∃ c cs, v.chars = c :: cs ∧ opensValue c := by
  cases h with
  | null => exact ⟨'n', _, rfl, rfl⟩
  | boolean b => cases b <;> exact ⟨_, _, rfl, rfl⟩
  | integer n =>
    rcases intChars_cases n with ⟨cs, hc, _⟩ | ⟨c, cs, hc, hd, _⟩
    · exact ⟨'-', cs, hc, rfl⟩
    · exact ⟨c, cs, hc, by simp [opensValue, hd]⟩
  | string s => exact ⟨'"', _, rfl, rfl⟩
  | array => exact ⟨'[', _, chars_array _, rfl⟩
  | object => exact ⟨'{', _, chars_object _, rfl⟩

theorem isSpace_of_opensValue {c : Char} (h : opensValue c) : isSpace c = false := by
  rw [Bool.eq_false_iff]
  intro hs
  simp only [isSpace, Bool.or_eq_true, decide_eq_true_eq] at hs
  rcases hs with ((rfl | rfl) | rfl) | rfl <;> revert h <;> decide

theorem skipSpace_of_opensValue {c : Char} (h : opensValue c) (text : List Char) :
    skipSpace (c :: text) = c :: text :=
  List.dropWhile_cons_of_neg (by simp [isSpace_of_opensValue h])

/-- Blanks before a value do not stand in its text. -/
theorem Value.Regular.skipSpace_chars {v : Value} (h : v.Regular) (rest : List Char) :
    skipSpace (v.chars ++ rest) = v.chars ++ rest := by
  obtain ⟨c, cs, hc, ho⟩ := h.chars_cons
  rw [hc, List.cons_append, skipSpace_of_opensValue ho]

theorem trimEnd_concat {c : Char} (hc : Text.isBlank c = false) (cs : List Char) :
    Text.trimEnd (cs ++ [c]) = cs ++ [c] := by
  induction cs with
  | nil => simp [Text.trimEnd, hc]
  | cons d cs ih =>
    rw [List.cons_append, Text.trimEnd, ih]
    split
    · next he => simp at he
    · next he => rw [he]

/-- A text without blanks at its ends is not trimmed. -/
theorem trim_of_ends {text : List Char} {c d : Char} (hfirst : text.head? = some c)
    (hlast : text.getLast? = some d) (hc : Text.isBlank c = false) (hd : Text.isBlank d = false) :
    Text.trim text = text := by
  obtain ⟨init, rfl⟩ := List.getLast?_eq_some_iff.mp hlast
  obtain ⟨tail, ht⟩ := List.head?_eq_some_iff.mp hfirst
  have hdrop : (init ++ [d]).dropWhile Text.isBlank = init ++ [d] := by
    rw [ht, List.dropWhile_cons_of_neg (by simp [hc])]
  rw [Text.trim, hdrop, trimEnd_concat hd]

theorem getLast?_membersChars (ms : List (String × Value)) :
    (Value.membersChars ms).getLast? = some '}' := by
  induction ms with
  | nil => rfl
  | cons m ms ih => simp [Value.membersChars, List.getLast?_cons, ih]

theorem getLast?_itemsChars (vs : List Value) : (Value.itemsChars vs).getLast? = some ']' := by
  induction vs with
  | nil => rfl
  | cons v vs ih => simp [Value.itemsChars, List.getLast?_cons, ih]

theorem trim_object (ms : List (String × Value)) :
    Text.trim (Value.object ms).chars = (Value.object ms).chars := by
  refine trim_of_ends (c := '{') (d := '}') ?_ ?_ rfl rfl
  · rw [chars_object]
    rfl
  · cases ms with
    | nil => rfl
    | cons m ms => simp [Value.chars, List.getLast?_cons, getLast?_membersChars]

theorem trim_array (vs : List Value) :
    Text.trim (Value.array vs).chars = (Value.array vs).chars := by
  refine trim_of_ends (c := '[') (d := ']') ?_ ?_ rfl rfl
  · rw [chars_array]
    rfl
  · cases vs with
    | nil => rfl
    | cons v vs => simp [Value.chars, List.getLast?_cons, getLast?_itemsChars]

theorem isBlank_of_isDigit {c : Char} (hc : isDigit c) : Text.isBlank c = false := by
  simp only [isDigit, Bool.and_eq_true, decide_eq_true_eq] at hc
  have hl : 48 ≤ c.toNat := hc.1
  have hu : c.toNat ≤ 57 := hc.2
  simp [Text.isBlank]
  omega

theorem trim_integer (n : Int) : Text.trim (intChars n) = intChars n := by
  have hblank : ∀ c ∈ intChars n, Text.isBlank c = false := by
    have hd : ∀ m, ∀ c ∈ natChars m, Text.isBlank c = false :=
      fun m c hc => isBlank_of_isDigit (natChars_digits m c hc)
    unfold intChars
    split
    · exact List.forall_mem_cons.mpr ⟨by decide, hd _⟩
    · exact hd _
  have hne : intChars n ≠ [] := by
    unfold intChars
    split
    · simp
    · exact Nat.toDigits_ne_nil
  exact trim_of_ends (List.head?_eq_some_head hne) (List.getLast?_eq_some_getLast hne)
    (hblank _ (List.head_mem hne)) (hblank _ (List.getLast_mem hne))

/-- The text of a value has no blanks around it. -/
theorem Value.Regular.trim_chars {v : Value} (h : v.Regular) : Text.trim v.chars = v.chars := by
  cases h with
  | null => rfl
  | boolean b => cases b <;> rfl
  | integer n => exact trim_integer n.val
  | string s =>
    have hs : (Value.string s).chars = '"' :: (s.toList.flatMap escapeChar ++ ['"']) := rfl
    exact trim_of_ends (c := '"') (d := '"') rfl (by simp [hs, List.getLast?_cons]) rfl rfl
  | array => exact trim_array _
  | object => exact trim_object _

theorem intChars_printable (n : Int) : ∀ c ∈ intChars n, 0x20 ≤ c.toNat := by
  unfold intChars
  split
  · exact List.forall_mem_cons.mpr ⟨by decide, natChars_printable _⟩
  · exact natChars_printable _

theorem itemsChars_printable {vs : List Value} (h : ∀ v ∈ vs, ∀ c ∈ v.chars, 0x20 ≤ c.toNat) :
    ∀ c ∈ Value.itemsChars vs, 0x20 ≤ c.toNat := by
  induction vs with
  | nil => exact List.forall_mem_singleton.mpr (by decide)
  | cons v vs ih =>
    have hvs := ih fun w hw => h w (List.mem_cons_of_mem v hw)
    simp only [Value.itemsChars, List.cons_append, List.forall_mem_cons, List.forall_mem_append]
    exact ⟨by decide, h v List.mem_cons_self, hvs⟩

theorem membersChars_printable {ms : List (String × Value)}
    (h : ∀ m ∈ ms, ∀ c ∈ m.2.chars, 0x20 ≤ c.toNat) :
    ∀ c ∈ Value.membersChars ms, 0x20 ≤ c.toNat := by
  induction ms with
  | nil => exact List.forall_mem_singleton.mpr (by decide)
  | cons m ms ih =>
    have hms := ih fun w hw => h w (List.mem_cons_of_mem m hw)
    simp only [Value.membersChars, List.cons_append, List.append_assoc, List.forall_mem_cons,
      List.forall_mem_append]
    exact ⟨by decide, stringChars_printable _, by decide, h m List.mem_cons_self, hms⟩

/-- The text of an object holds no control characters if those of its values hold none. -/
theorem objectChars_printable {ms : List (String × Value)}
    (h : ∀ m ∈ ms, ∀ c ∈ m.2.chars, 0x20 ≤ c.toNat) :
    ∀ c ∈ (Value.object ms).chars, 0x20 ≤ c.toNat := by
  have hms := membersChars_printable h
  rw [chars_object]
  cases ms with
  | nil => simp [Value.objectBody]
  | cons m ms =>
    simp only [Value.objectBody, Value.membersChars, List.cons_append, List.forall_mem_cons] at hms ⊢
    exact ⟨by decide, hms.2⟩

/-- The text of a regular value holds no control characters. -/
theorem Value.Regular.chars_printable {v : Value} (h : v.Regular) :
    ∀ c ∈ v.chars, 0x20 ≤ c.toNat := by
  induction h with
  | null => simp [Value.chars]
  | boolean b => cases b <;> simp [Value.chars]
  | integer n => exact intChars_printable n.val
  | string s => exact stringChars_printable s.toList
  | @array vs _ ih =>
    have hvs := itemsChars_printable ih
    rw [chars_array]
    cases vs with
    | nil => simp [Value.listBody]
    | cons v vs =>
      simp only [Value.listBody, Value.itemsChars, List.cons_append, List.forall_mem_cons] at hvs ⊢
      exact ⟨by decide, hvs.2⟩
  | object _ _ ih => exact objectChars_printable ih

end Switchboard.Json
