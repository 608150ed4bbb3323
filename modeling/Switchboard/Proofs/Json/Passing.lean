import Switchboard.Proofs.Json.Turns
import Switchboard.Json.Skip

namespace Switchboard.Json

variable {rest text tail item : List Char} {nests : List Nest} {turn : Turn}

def passItem (nests : List Nest) : Turn → Except Fault (List Char)
  | .done rest => skipNested nests .after rest
  | .entry item => skipNested (.list :: nests) .value item

def passMember (nests : List Nest) : Turn → Except Fault (List Char)
  | .done rest => skipNested nests .after rest
  | .entry entry =>
    match skipKey entry with
    | .error f => .error f
    | .ok item => skipNested (.object :: nests) .value item

theorem skipNested_scalar {c : Char} (ht : skipSpace text = c :: tail) (hlist : c ≠ '[')
    (hobject : c ≠ '{') (h : skipScalar (c :: tail) = .ok rest) :
    skipNested nests .value text = skipNested nests .after rest := by
  rw [skipNested]
  split
  · next he =>
    rw [ht] at he
    cases he
    contradiction
  · next he =>
    rw [ht] at he
    cases he
    contradiction
  · split <;> rename_i hr <;> rw [ht, h] at hr <;> cases hr
    rfl

/-- A list is passed over turn by turn. -/
theorem skipNested_list (ht : skipSpace text = '[' :: tail) (hn : nextItem true tail = .ok turn) :
    skipNested nests .value text = passItem nests turn := by
  rw [skipNested]
  split
  · next he =>
    rw [ht] at he
    cases he
    split <;> rename_i h <;> rw [hn] at h <;> cases h <;> rfl
  · next he => cases ht.symm.trans he
  · next hlist _ => exact absurd ht (hlist tail)

theorem skipNested_object (ht : skipSpace text = '{' :: tail) (hn : nextKey true tail = .ok turn) :
    skipNested nests .value text = passMember nests turn := by
  rw [skipNested]
  split
  · next he => cases ht.symm.trans he
  · next he =>
    rw [ht] at he
    cases he
    split <;> rename_i h <;> rw [hn] at h <;> cases h
    · rfl
    · rw [passMember]
      split <;> rename_i hk <;> simp only [hk]
  · next hobject => exact absurd ht (hobject tail)

theorem skipNested_skipSpace (nests : List Nest) (text : List Char) :
    skipNested nests .value (skipSpace text) = skipNested nests .value text := by
  have hsame : ∀ u, skipSpace u = skipSpace text →
      skipNested nests .value u = skipNested nests .value text := by
    intro u hu
    rw [skipNested, skipNested.eq_def nests .value text]
    simp only
    rw [hu]
  exact hsame _ (skipSpace_skipSpace text)

theorem skipNested_comma (ht : skipSpace text = ',' :: tail) :
    skipNested (.list :: nests) .after text = skipNested (.list :: nests) .value tail := by
  conv => lhs; rw [skipNested]
  split <;> simp_all

theorem skipNested_bracket (ht : skipSpace text = ']' :: tail) :
    skipNested (.list :: nests) .after text = skipNested nests .after tail := by
  conv => lhs; rw [skipNested]
  split <;> simp_all

theorem skipNested_key (ht : skipSpace text = ',' :: tail) :
    skipNested (.object :: nests) .after text =
      match skipToKey tail with
      | .error f => .error f
      | .ok item => skipNested (.object :: nests) .value item := by
  conv => lhs; rw [skipNested]
  split <;> simp_all
  split <;> simp_all

theorem skipNested_brace (ht : skipSpace text = '}' :: tail) :
    skipNested (.object :: nests) .after text = skipNested nests .after tail := by
  conv => lhs; rw [skipNested]
  split <;> simp_all

/-- Behind an item a list goes on with what comes next in it. -/
theorem skipNested_item (hn : nextItem false text = .ok turn) :
    skipNested (.list :: nests) .after text = passItem nests turn := by
  rcases nextItem_iff.mp hn with ht | _ | ⟨ht, hu, -⟩
  · exact skipNested_bracket ht
  · rw [skipNested_comma ht, ← skipNested_skipSpace, hu, passItem]

/-- Behind a member an object goes on with what comes next in it. -/
theorem skipNested_member (hn : nextKey false text = .ok turn) :
    skipNested (.object :: nests) .after text = passMember nests turn := by
  rcases nextKey_iff.mp hn with ht | _ | ⟨ht, hu⟩
  · exact skipNested_brace ht
  · simp only [skipNested_key ht, skipToKey, hu, passMember]

theorem skipKey_written (k : String) (rest : List Char) :
    skipKey (k.toList.flatMap escapeChar ++ '"' :: ':' :: rest) = .ok rest := by
  rw [skipKey, skipString_written]
  rfl

/-- A value is passed over, whatever lists and objects are open around it. -/
def Passes (v : Value) : Prop :=
  ∀ nests rest, continuesNumber rest = false →
    skipNested nests .value (v.chars ++ rest) = skipNested nests .after rest

/-- A value that is no list and no object is passed over as its lexeme is. -/
theorem passes_scalar {v : Value} {c : Char} {cs : List Char} (hc : v.chars = c :: cs)
    (ho : opensValue c) (hlist : c ≠ '[') (hobject : c ≠ '{')
    (h : ∀ rest, continuesNumber rest = false → skipScalar (c :: (cs ++ rest)) = .ok rest) :
    Passes v := by
  intro nests rest hr
  have ht : skipSpace (v.chars ++ rest) = c :: (cs ++ rest) := by
    rw [hc, List.cons_append, skipSpace_of_opensValue ho]
  exact skipNested_scalar ht hlist hobject (h rest hr)

theorem skipScalar_digit {c : Char} (hc : isDigit c) (text : List Char) :
    skipScalar (c :: text) = skipNumber (c :: text) := by
  rw [skipScalar, if_pos hc]
  all_goals exact ne_of_isDigit hc (by decide)

/-- The further items of a list are passed over up to its bracket. -/
theorem skipNested_items {vs : List Value} (h : ∀ v ∈ vs, Passes v) (nests : List Nest)
    (rest : List Char) :
    skipNested (.list :: nests) .after (Value.itemsChars vs ++ rest) =
      skipNested nests .after rest := by
  induction vs with
  | nil => exact skipNested_bracket rfl
  | cons v vs ih =>
    calc
      skipNested (.list :: nests) .after (Value.itemsChars (v :: vs) ++ rest)
      _ = skipNested (.list :: nests) .value (v.chars ++ (Value.itemsChars vs ++ rest)) := by
        rw [Value.itemsChars, List.cons_append, List.cons_append, skipNested_comma rfl,
          List.append_assoc]
      _ = skipNested (.list :: nests) .after (Value.itemsChars vs ++ rest) :=
        h v (by simp) _ _ (itemsChars_ends vs rest)
      _ = skipNested nests .after rest := ih fun w hw => h w (by simp [hw])

theorem skipNested_members {ms : List (String × Value)} (h : ∀ m ∈ ms, Passes m.2)
    (nests : List Nest) (rest : List Char) :
    skipNested (.object :: nests) .after (Value.membersChars ms ++ rest) =
      skipNested nests .after rest := by
  induction ms with
  | nil => exact skipNested_brace rfl
  | cons m ms ih =>
    have hk : skipToKey (stringChars m.1.toList ++
        ':' :: (m.2.chars ++ (Value.membersChars ms ++ rest))) =
          .ok (m.2.chars ++ (Value.membersChars ms ++ rest)) := by
      rw [stringChars_append]
      exact skipKey_written m.1 _
    calc
      skipNested (.object :: nests) .after (Value.membersChars (m :: ms) ++ rest)
      _ = skipNested (.object :: nests) .value (m.2.chars ++ (Value.membersChars ms ++ rest)) := by
        have ht : Value.membersChars (m :: ms) ++ rest = ',' :: (stringChars m.1.toList ++
            ':' :: (m.2.chars ++ (Value.membersChars ms ++ rest))) := by simp [Value.membersChars]
        rw [ht, skipNested_key rfl, hk]
      _ = skipNested (.object :: nests) .after (Value.membersChars ms ++ rest) :=
        h m (by simp) _ _ (membersChars_ends ms rest)
      _ = skipNested nests .after rest := ih fun n hn => h n (by simp [hn])

theorem passes_integer (n : Integer) : Passes (.number (.integer n)) := by
  rcases intChars_cases n with ⟨cs, hc, h⟩ | ⟨c, cs, hc, hd, h⟩
  · exact passes_scalar hc rfl (by decide) (by decide) h.skipped
  · refine passes_scalar hc (by simp [opensValue, hd]) (ne_of_isDigit hd (by decide))
      (ne_of_isDigit hd (by decide)) fun rest hr => ?_
    rw [skipScalar_digit hd, ← List.cons_append, h.skipped rest hr]

theorem passes_string (s : String) : Passes (.string s) := by
  have hc : (Value.string s).chars = '"' :: (s.toList.flatMap escapeChar ++ ['"']) := rfl
  refine passes_scalar hc rfl (by decide) (by decide) fun rest _ => ?_
  rw [List.append_assoc]
  exact skipString_written s.toList rest

theorem passes_array {vs : List Value} (hreg : ∀ v ∈ vs, v.Regular) (h : ∀ v ∈ vs, Passes v) :
    Passes (.array vs) := by
  intro nests rest _
  rw [chars_array, List.cons_append]
  cases vs with
  | nil =>
    have hn : nextItem true (']' :: rest) = .ok (.done rest) := rfl
    exact skipNested_list rfl hn
  | cons v vs =>
    calc
      skipNested nests .value ('[' :: (Value.listBody (v :: vs) ++ rest))
      _ = skipNested (.list :: nests) .value (v.chars ++ (Value.itemsChars vs ++ rest)) :=
        skipNested_list rfl (nextItem_listBody (hreg v (by simp)) vs rest)
      _ = skipNested (.list :: nests) .after (Value.itemsChars vs ++ rest) :=
        h v (by simp) _ _ (itemsChars_ends vs rest)
      _ = skipNested nests .after rest :=
        skipNested_items (fun w hw => h w (by simp [hw])) nests rest

theorem passes_object {ms : List (String × Value)} (h : ∀ m ∈ ms, Passes m.2) :
    Passes (.object ms) := by
  intro nests rest _
  rw [chars_object, List.cons_append]
  cases ms with
  | nil =>
    have hn : nextKey true ('}' :: rest) = .ok (.done rest) := rfl
    exact skipNested_object rfl hn
  | cons m ms =>
    have hn := nextKey_true m.1 m.2 ms rest
    have hk := skipKey_written m.1 (m.2.chars ++ (Value.membersChars ms ++ rest))
    calc
      skipNested nests .value ('{' :: (Value.objectBody (m :: ms) ++ rest))
      _ = skipNested (.object :: nests) .value (m.2.chars ++ (Value.membersChars ms ++ rest)) := by
        rw [skipNested_object rfl hn]
        simp only [passMember, hk]
      _ = skipNested (.object :: nests) .after (Value.membersChars ms ++ rest) :=
        h m (by simp) _ _ (membersChars_ends ms rest)
      _ = skipNested nests .after rest :=
        skipNested_members (fun n hn => h n (by simp [hn])) nests rest

/-- A regular value is passed over, however deep it nests. -/
theorem Value.Regular.passes {v : Value} (h : v.Regular) : Passes v := by
  induction h with
  | null => exact passes_scalar rfl rfl (by decide) (by decide) fun _ _ => rfl
  | boolean b =>
    cases b <;> exact passes_scalar rfl rfl (by decide) (by decide) fun _ _ => rfl
  | integer n => exact passes_integer n
  | string s => exact passes_string s
  | array hvs ih => exact passes_array hvs ih
  | object _ _ ih => exact passes_object ih

/-- Passing over a regular value leaves what comes behind its text. -/
theorem skip_written {v : Value} (h : v.Regular) (hr : continuesNumber rest = false) :
    skip.run (v.chars ++ rest) = .ok ((), rest) := by
  have hp : skipNested [] .value (v.chars ++ rest) = .ok rest := by
    rw [h.passes [] rest hr, skipNested]
  exact congrArg (Except.map _) hp

end Switchboard.Json
