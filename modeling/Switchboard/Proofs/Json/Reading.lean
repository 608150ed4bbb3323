import Switchboard.Proofs.Json.Regular
import Switchboard.Json.Typed

namespace Switchboard.Json

variable {rest text : List Char} {first : Bool} {d : Nat}

/-- The cause noticed in a text against that noticed in the value it is the text of. They only
differ over a list with too many items, which for a text goes on where it should end. -/
inductive Cause.Matches : Cause → Cause → Prop
  | same (c : Cause) : Matches c c
  | tooLong (n : Nat) : Matches .trailingCharacters (.tooLong n)

theorem Cause.Matches.eq_tooDeep {c : Cause} (h : c.Matches .tooDeep) : c = .tooDeep := by
  cases h
  rfl

/-- What is made of a text agrees with what is made of a value: both the same, or both a
refusal. -/
def Agrees (x : Except Fault α) : Except Cause α → Prop
  | .ok a => x = .ok a
  | .error c => ∃ f, x = .error f ∧ f.cause.Matches c

theorem Agrees.of_ok {x : Except Fault α} {y : Except Cause α} {a : α} (h : Agrees x y)
    (hy : y = .ok a) : x = .ok a := by
  subst hy
  exact h

/-- A value that nothing is made of has a text that is refused. -/
theorem Agrees.of_not_ok {x : Except Fault α} {y : Except Cause α} (h : Agrees x y)
    (hy : ∀ a, y ≠ .ok a) : ∃ f, x = .error f := by
  cases y with
  | ok a => exact absurd rfl (hy a)
  | error c =>
    obtain ⟨f, hf, -⟩ := h
    exact ⟨f, hf⟩

def Reads (rest : List Char) (x : Reading α) (y : Except Cause α) : Prop :=
  Agrees x (y.map (·, rest))

theorem Reads.map {x : Reading α} {y : Except Cause α} (h : Reads rest x y) (g : α → β) :
    Reads rest (x.map fun (a, rest) => (g a, rest)) (y.map g) := by
  cases y with
  | ok a => exact congrArg (Except.map _) h
  | error c =>
    obtain ⟨f, rfl, hc⟩ := h
    exact ⟨f, rfl, hc⟩

theorem Reader.map_run (g : α → β) (r : Reader α) (text : List Char) :
    (r.map g).run text = (r.run text).map fun (a, rest) => (g a, rest) := by
  simp only [Reader.map]
  cases r.run text <;> rfl

theorem Reader.afterColon_run (r : Reader α) (text : List Char) :
    r.afterColon.run (':' :: text) = r.run text := rfl

theorem nextItem_true {c : Char} (hc : opensValue c) (text : List Char) :
    nextItem true (c :: text) = .ok (.entry (c :: text)) := by
  have hne : c ≠ ']' := by
    rintro rfl
    exact absurd hc (by decide)
  simp [nextItem, skipSpace_of_opensValue hc]

theorem nextItem_false {c : Char} (hc : opensValue c) (text : List Char) :
    nextItem false (',' :: c :: text) = .ok (.entry (c :: text)) := by
  have hne : c ≠ ']' := by
    rintro rfl
    exact absurd hc (by decide)
  have hcomma : skipSpace (',' :: c :: text) = ',' :: c :: text := rfl
  simp [nextItem, hcomma, skipSpace_of_opensValue hc, hne]

theorem nextItem_listBody {v : Value} (h : v.Regular) (vs : List Value) (rest : List Char) :
    nextItem true (Value.listBody (v :: vs) ++ rest) =
      .ok (.entry (v.chars ++ (Value.itemsChars vs ++ rest))) := by
  obtain ⟨c, cs, hc, ho⟩ := h.chars_cons
  rw [Value.listBody, hc]
  simpa using nextItem_true ho (cs ++ (Value.itemsChars vs ++ rest))

theorem nextItem_itemsChars {v : Value} (h : v.Regular) (vs : List Value) (rest : List Char) :
    nextItem false (Value.itemsChars (v :: vs) ++ rest) =
      .ok (.entry (v.chars ++ (Value.itemsChars vs ++ rest))) := by
  obtain ⟨c, cs, hc, ho⟩ := h.chars_cons
  rw [Value.itemsChars, hc]
  simpa using nextItem_false ho (cs ++ (Value.itemsChars vs ++ rest))

theorem items_done {item : Reader α} (h : nextItem first text = .ok (.done rest)) :
    items item first text = .ok ([], rest) := by
  rw [items]
  split <;> simp_all

theorem items_entry {item : Reader α} {entry : List Char}
    (h : nextItem first text = .ok (.entry entry)) :
    items item first text =
      match item.run entry with
      | .error f => .error f
      | .ok (a, rest) => (items item false rest).map fun (as, last) => (a :: as, last) := by
  rw [items]
  split <;> rename_i he <;> rw [h] at he <;> cases he
  split
  · rename_i hi
    rw [hi]
  · rename_i a rest hi
    simp only [hi]
    cases items item false rest <;> rfl

/-- The first of the items left is read by its reader and the others after it. -/
theorem Reads.items_cons {item : Reader α} {convert : Value → Except Cause α} {v : Value}
    {vs : List Value} {entry tail : List Char} (hn : nextItem first text = .ok (.entry entry))
    (hv : Reads tail (item.run entry) (convert v))
    (hvs : Reads rest (items item false tail) (convertAll convert vs)) :
    Reads rest (items item first text) (convertAll convert (v :: vs)) := by
  rw [items_entry hn, convertAll]
  cases hc : convert v with
  | error c =>
    rw [hc] at hv
    obtain ⟨f, hf, hm⟩ := hv
    exact ⟨f, by rw [hf], hm⟩
  | ok a =>
    rw [hc] at hv
    have hv : item.run entry = .ok (a, tail) := hv
    rw [hv]
    exact hvs.map (a :: ·)

section Items

variable {item : Reader α} {convert : Value → Except Cause α} {vs : List Value}

/-- The further items of a list are read one by one. -/
theorem items_reads (hreg : ∀ v ∈ vs, v.Regular)
    (h : ∀ v ∈ vs, ∀ rest, continuesNumber rest = false →
      Reads rest (item.run (v.chars ++ rest)) (convert v)) (rest : List Char) :
    Reads rest (items item false (Value.itemsChars vs ++ rest)) (convertAll convert vs) := by
  induction vs with
  | nil => exact items_done rfl
  | cons v vs ih =>
    exact .items_cons (nextItem_itemsChars (hreg v (by simp)) vs rest)
      (h v (by simp) _ (itemsChars_ends vs rest))
      (ih (fun w hw => hreg w (by simp [hw])) (fun w hw => h w (by simp [hw])))

/-- A list is read item by item. -/
theorem items_reads_all (hreg : ∀ v ∈ vs, v.Regular)
    (h : ∀ v ∈ vs, ∀ rest, continuesNumber rest = false →
      Reads rest (item.run (v.chars ++ rest)) (convert v)) (rest : List Char) :
    Reads rest (items item true (Value.listBody vs ++ rest)) (convertAll convert vs) := by
  cases vs with
  | nil => exact items_done rfl
  | cons v vs =>
    exact .items_cons (nextItem_listBody (hreg v (by simp)) vs rest)
      (h v (by simp) _ (itemsChars_ends vs rest))
      (items_reads (fun w hw => hreg w (by simp [hw])) (fun w hw => h w (by simp [hw])) rest)

end Items

theorem membersInto_done {member : σ → String → Reader σ} {s : σ}
    (h : nextKey first text = .ok (.done rest)) :
    membersInto member s first text = .ok (s, rest) := by
  rw [membersInto]
  split <;> simp_all

theorem membersInto_entry {member : σ → String → Reader σ} {s : σ} {entry value : List Char}
    {k : String} (h : nextKey first text = .ok (.entry entry)) (hk : key entry = .ok (k, value)) :
    membersInto member s first text =
      match (member s k).run value with
      | .error f => .error f
      | .ok (s', rest) => membersInto member s' false rest := by
  rw [membersInto]
  split <;> rename_i he <;> rw [h] at he <;> cases he
  split <;> rename_i he <;> rw [hk] at he <;> cases he
  split <;> rename_i hm <;> rw [hm]

/-- Behind the brace of an object comes the key of its first member. -/
theorem nextKey_true (k : String) (v : Value) (ms : List (String × Value)) (rest : List Char) :
    nextKey true (Value.objectBody ((k, v) :: ms) ++ rest) =
      .ok (.entry (k.toList.flatMap escapeChar ++
        '"' :: ':' :: (v.chars ++ (Value.membersChars ms ++ rest)))) := by
  simp only [Value.objectBody, List.append_assoc, List.cons_append, stringChars_append]
  rfl

theorem nextKey_false (k : String) (v : Value) (ms : List (String × Value)) (rest : List Char) :
    nextKey false (Value.membersChars ((k, v) :: ms) ++ rest) =
      .ok (.entry (k.toList.flatMap escapeChar ++
        '"' :: ':' :: (v.chars ++ (Value.membersChars ms ++ rest)))) := by
  simp only [Value.membersChars, List.append_assoc, List.cons_append, stringChars_append]
  rfl

section Members

variable {member : σ → String → Reader σ} {step : σ → String × Value → Except Cause σ}
  {ms : List (String × Value)}

/-- The first of the members left is read into what was collected and the others after it. -/
theorem Reads.members_cons {s : σ} {m : String × Value} {tail : List Char}
    (hn : nextKey first text =
      .ok (.entry (m.1.toList.flatMap escapeChar ++ '"' :: ':' :: (m.2.chars ++ tail))))
    (hm : Reads tail ((member s m.1).run (':' :: (m.2.chars ++ tail))) (step s m))
    (hms : ∀ s, Reads rest (membersInto member s false tail) (ms.foldlM step s)) :
    Reads rest (membersInto member s first text) ((m :: ms).foldlM step s) := by
  rw [membersInto_entry hn (key_written m.1 _), List.foldlM_cons]
  cases hs : step s m with
  | error c =>
    rw [hs] at hm
    obtain ⟨f, hf, hc⟩ := hm
    exact ⟨f, by rw [hf], hc⟩
  | ok s' =>
    rw [hs] at hm
    have hm : (member s m.1).run (':' :: (m.2.chars ++ tail)) = .ok (s', tail) := hm
    rw [hm]
    exact hms s'

/-- The further members of an object are read one by one, each into what came of those before. -/
theorem membersInto_reads
    (h : ∀ m ∈ ms, ∀ s rest, continuesNumber rest = false →
      Reads rest ((member s m.1).run (':' :: (m.2.chars ++ rest))) (step s m))
    (s : σ) (rest : List Char) :
    Reads rest (membersInto member s false (Value.membersChars ms ++ rest)) (ms.foldlM step s) := by
  induction ms generalizing s with
  | nil => exact membersInto_done rfl
  | cons m ms ih =>
    exact .members_cons (nextKey_false m.1 m.2 ms rest)
      (h m (by simp) s _ (membersChars_ends ms rest)) (ih fun n hn => h n (by simp [hn]))

/-- An object is read member by member. -/
theorem membersInto_reads_all
    (h : ∀ m ∈ ms, ∀ s rest, continuesNumber rest = false →
      Reads rest ((member s m.1).run (':' :: (m.2.chars ++ rest))) (step s m))
    (s : σ) (rest : List Char) :
    Reads rest (membersInto member s true (Value.objectBody ms ++ rest)) (ms.foldlM step s) := by
  cases ms with
  | nil => exact membersInto_done rfl
  | cons m ms =>
    exact .members_cons (nextKey_true m.1 m.2 ms rest)
      (h m (by simp) s _ (membersChars_ends ms rest))
      fun s => membersInto_reads (fun n hn => h n (by simp [hn])) s rest

end Members

def Value.within (d : Nat) (v : Value) : Except Cause Value :=
  if v.depth ≤ d then .ok v else .error .tooDeep

/-- A list nests as deep as allowed just if each of its items does. -/
theorem convertAll_within (vs : List Value) :
    convertAll (Value.within d) vs =
      if Value.itemsDepth vs ≤ d then .ok vs else .error .tooDeep := by
  induction vs with
  | nil => rfl
  | cons v vs ih =>
    rw [convertAll, Value.itemsDepth, ih, Value.within]
    simp only [Nat.max_le]
    by_cases hv : v.depth ≤ d <;> by_cases hvs : Value.itemsDepth vs ≤ d <;>
      simp [hv, hvs, Except.map]

theorem foldlM_within (ms done : List (String × Value)) :
    ms.foldlM (fun ms m => (m.2.within d).map fun v => insertMember m.1 v ms) done =
      if Value.membersDepth ms ≤ d then
        .ok (ms.foldl (fun ms m => insertMember m.1 m.2 ms) done)
      else .error .tooDeep := by
  induction ms generalizing done with
  | nil => rfl
  | cons m ms ih =>
    rw [List.foldlM_cons, Value.membersDepth, Value.within]
    by_cases hv : m.2.depth ≤ d
    · simp only [hv, if_true, Except.map, Nat.max_le, true_and, List.foldl_cons]
      exact ih _
    · simp only [hv, if_false, Nat.max_le, false_and]
      rfl

theorem value_run (d : Nat) (text : List Char) :
    ∃ list object, (value d).run text = valueWith list object (skipSpace text) := by
  cases d <;> exact ⟨_, _, rfl⟩

theorem valueWith_digit {list object : List Char → Reading Value} {c : Char} (hc : isDigit c)
    (text : List Char) :
    valueWith list object (c :: text) =
      (number false (c :: text)).map fun (n, rest) => (.number n, rest) := by
  rw [valueWith, if_pos hc]
  all_goals exact ne_of_isDigit hc (by decide)

/-- An integer reads back under either sign. -/
theorem valueWith_integer {list object : List Char → Reading Value} (n : Integer)
    (hr : continuesNumber rest = false) :
    valueWith list object (intChars n.val ++ rest) = .ok (.number (.integer n), rest) := by
  rcases intChars_cases n with ⟨cs, hc, h⟩ | ⟨c, cs, hc, hd, h⟩
  · rw [hc, List.cons_append, valueWith, h.read rest hr]
    rfl
  · rw [hc, List.cons_append, valueWith_digit hd, ← List.cons_append, h.read rest hr]
    rfl

/-- The text of a list whose items read back. -/
theorem value_array_reads {vs : List Value} (hreg : ∀ v ∈ vs, v.Regular)
    (h : ∀ v ∈ vs, ∀ rest, continuesNumber rest = false →
      Reads rest ((value d).run (v.chars ++ rest)) (v.within d)) (rest : List Char) :
    Reads rest ((value (d + 1)).run ((Value.array vs).chars ++ rest))
      ((Value.array vs).within (d + 1)) := by
  have hitems := (items_reads_all hreg h rest).map Value.array
  rw [convertAll_within] at hitems
  have hw : (Value.array vs).within (d + 1) =
      (if Value.itemsDepth vs ≤ d then .ok vs else .error .tooDeep : Except Cause _).map .array := by
    rw [Value.within, Value.depth]
    by_cases hd : Value.itemsDepth vs ≤ d <;> simp [hd, Except.map]
  rw [chars_array, hw]
  exact hitems

/-- The text of an object whose values read back. The members may be written in any order. -/
theorem value_object_reads {ms : List (String × Value)}
    (h : ∀ m ∈ ms, ∀ rest, continuesNumber rest = false →
      Reads rest ((value d).run (m.2.chars ++ rest)) (m.2.within d)) (rest : List Char) :
    Reads rest ((value (d + 1)).run ((Value.object ms).chars ++ rest))
      (if Value.membersDepth ms ≤ d then .ok (.object (members ms)) else .error .tooDeep) := by
  have hmember : ∀ m ∈ ms, ∀ (s : List (String × Value)) rest, continuesNumber rest = false →
      Reads rest ((addMember (value d) s m.1).run (':' :: (m.2.chars ++ rest)))
        ((m.2.within d).map fun v => insertMember m.1 v s) := by
    intro m hm s rest hr
    rw [addMember, Reader.afterColon_run, Reader.map_run]
    exact (h m hm rest hr).map fun v => insertMember m.1 v s
  have hall := (membersInto_reads_all hmember [] rest).map Value.object
  rw [foldlM_within] at hall
  have hw : (if Value.membersDepth ms ≤ d then .ok (.object (members ms)) else .error .tooDeep) =
      (if Value.membersDepth ms ≤ d then .ok (members ms) else .error .tooDeep :
        Except Cause _).map Value.object := by
    by_cases hd : Value.membersDepth ms ≤ d <;> simp [hd, Except.map]
  rw [chars_object, hw]
  exact hall

/-- The text of a regular value reads back, or is refused if it nests too deep. -/
theorem value_reads {v : Value} (h : v.Regular) (d : Nat) (hr : continuesNumber rest = false) :
    Reads rest ((value d).run (v.chars ++ rest)) (v.within d) := by
  induction h generalizing d rest with
  | null =>
    obtain ⟨list, object, hv⟩ := value_run d (Value.null.chars ++ rest)
    rw [hv]
    rfl
  | boolean b =>
    obtain ⟨list, object, hv⟩ := value_run d ((Value.boolean b).chars ++ rest)
    rw [hv]
    cases b <;> rfl
  | integer n =>
    obtain ⟨list, object, hv⟩ := value_run d ((Value.number (.integer n)).chars ++ rest)
    rw [hv, (Value.Regular.integer n).skipSpace_chars]
    exact valueWith_integer n hr
  | string s =>
    obtain ⟨list, object, hv⟩ := value_run d ((Value.string s).chars ++ rest)
    rw [hv, (Value.Regular.string s).skipSpace_chars, Value.chars, stringChars_append]
    simp [valueWith, stringBody_written, Reads, Agrees, Value.within, Value.depth, Except.map]
  | array hvs ih =>
    cases d with
    | zero =>
      rw [chars_array, Value.within, Value.depth]
      exact ⟨_, rfl, .same _⟩
    | succ d =>
      exact value_array_reads hvs (fun v hv _ hr => ih v hv d hr) rest
  | @object ms hms ordered ih =>
    cases d with
    | zero =>
      rw [chars_object, Value.within, Value.depth]
      exact ⟨_, rfl, .same _⟩
    | succ d =>
      have h := value_object_reads (fun m hm _ hr => ih m hm d hr) rest
      rw [members_ordered ordered] at h
      simpa [Value.within, Value.depth] using h

/-- A regular value that nests no deeper than allowed reads back as itself. -/
theorem value_written {v : Value} (h : v.Regular) (hd : v.depth ≤ d)
    (hr : continuesNumber rest = false) : (value d).run (v.chars ++ rest) = .ok (v, rest) := by
  have := value_reads h d hr
  rwa [Value.within, if_pos hd] at this

/-- A regular value that nests deeper than allowed is refused for that. -/
theorem value_tooDeep {v : Value} (h : v.Regular) (hd : d < v.depth)
    (hr : continuesNumber rest = false) :
    ∃ f, (value d).run (v.chars ++ rest) = .error f ∧ f.cause = .tooDeep := by
  have hv := value_reads h d hr
  rw [Value.within, if_neg (Nat.not_le.mpr hd)] at hv
  obtain ⟨f, hf, hc⟩ := hv
  exact ⟨f, hf, hc.eq_tooDeep⟩

end Switchboard.Json
