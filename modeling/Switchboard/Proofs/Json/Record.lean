import Switchboard.Proofs.Json.Passing
import Switchboard.Proofs.Json.Typed
import Switchboard.Json.Record

namespace Switchboard.Json

variable {rest : List Char} {d : Nat} {v : Value}

/-- A field reads from the text of a value what it converts the value to. -/
def Field.Faithful (f : Field σ) : Prop :=
  ∀ d draft v rest, v.Regular → v.depth ≤ d → continuesNumber rest = false →
    Reads rest ((f.read d draft).run (v.chars ++ rest)) (f.convert draft v)

/-- A field is faithful if its reader reads what its conversion makes. -/
theorem Field.Faithful.of_reads {f : Field σ} {reader : Nat → Reader α} {convert : Value → Except Cause α}
    {g : σ → α → σ}
    (hreads : ∀ d v rest, v.Regular → v.depth ≤ d → continuesNumber rest = false →
      Reads rest ((reader d).run (v.chars ++ rest)) (convert v))
    (hread : ∀ d draft, f.read d draft = (reader d).map (g draft))
    (hconvert : ∀ draft v, f.convert draft v = (convert v).map (g draft)) : f.Faithful := by
  intro d draft v rest h hd hr
  rw [hread, hconvert, Reader.map_run]
  exact (hreads d v rest h hd hr).map (g draft)

variable {r : Record σ α} {draft : σ} {ms : List (String × Value)}

def Record.enter (r : Record σ α) (draft : σ) (m : String × Value) : Except Cause σ :=
  match r.field? m.1 with
  | none => .ok draft
  | some f =>
    if f.isSet draft then .error (.duplicateField f.name) else f.convert draft m.2

theorem Record.collect_eq_foldlM (r : Record σ α) (draft : σ) (ms : List (String × Value)) :
    r.collect draft ms = ms.foldlM r.enter draft := by
  induction ms generalizing draft with
  | nil => rfl
  | cons m ms ih =>
    rw [Record.collect, List.foldlM_cons, Record.enter]
    cases r.field? m.1 with
    | none => exact ih draft
    | some f =>
      simp only
      split
      · rfl
      · cases f.convert draft m.2 with
        | error c => rfl
        | ok draft => exact ih draft

/-- A member goes to the field of its name, and is passed over if there is none. -/
theorem Record.member_reads (hf : ∀ f ∈ r.fields, f.Faithful) {m : String × Value}
    (hm : m.2.Regular) (hd : m.2.depth ≤ d) (hr : continuesNumber rest = false) :
    Reads rest ((r.member d draft m.1).run (':' :: (m.2.chars ++ rest))) (r.enter draft m) := by
  unfold Record.member Record.enter
  cases hfield : r.field? m.1 with
  | none =>
    simp only [Reader.afterColon_run, Reader.map_run, skip_written hm hr]
    rfl
  | some f =>
    have hmem : f ∈ r.fields := List.mem_of_find?_eq_some hfield
    simp only
    split
    · exact ⟨_, rfl, .same _⟩
    · exact hf f hmem d draft m.2 rest hm hd hr

/-- A record written as an object: its members are collected in their order. -/
theorem Record.collect_reads (hf : ∀ f ∈ r.fields, f.Faithful)
    (hms : ∀ m ∈ ms, m.2.Regular ∧ m.2.depth ≤ d) (rest : List Char) :
    Reads rest (membersInto (r.member d) draft true (Value.objectBody ms ++ rest))
      (r.collect draft ms) := by
  rw [r.collect_eq_foldlM]
  exact membersInto_reads_all
    (fun m hm _ _ hr => r.member_reads hf (hms m hm).1 (hms m hm).2 hr) draft rest

theorem listEnd_trailing {c : Char} (ho : opensValue c) (text : List Char) :
    listEnd (c :: text) = .error (.next .trailingCharacters (c :: text)) := by
  have hne : c ≠ ']' ∧ c ≠ ',' := by
    constructor <;> rintro rfl <;> exact absurd ho (by decide)
  simp [listEnd, skipSpace_of_opensValue ho, hne]

/-- A list with more items than fields is refused at the first of them. -/
theorem listEnd_comma {c : Char} (ho : opensValue c) (text : List Char) :
    listEnd (',' :: c :: text) = .error (.next .trailingCharacters (c :: text)) := by
  have hne : c ≠ ']' := by
    rintro rfl
    exact absurd ho (by decide)
  have hcomma : skipSpace (',' :: c :: text) = ',' :: c :: text := rfl
  simp [listEnd, hcomma, skipSpace_of_opensValue ho, hne]

variable {fs : List (Field σ)} {vs : List Value} {index n : Nat} {text tail : List Char}

theorem Reads.positional_done {f : Field σ} (hn : nextItem (index = 0) text = .ok (.done rest)) :
    Reads rest (r.positional d index draft (f :: fs) text) (r.fill n index draft (f :: fs) []) := by
  rw [Record.positional, hn, Record.fill]
  cases r.tooShort index (f :: fs) with
  | none => rfl
  | some c => exact ⟨_, rfl, .same c⟩

theorem Reads.positional_cons {f : Field σ} (hf : f.Faithful)
    (hn : nextItem (index = 0) text = .ok (.entry (v.chars ++ tail))) (hv : v.Regular)
    (hd : v.depth ≤ d) (ht : continuesNumber tail = false)
    (hrest : ∀ draft, Reads rest (r.positional d (index + 1) draft fs tail)
      (r.fill n (index + 1) draft fs vs)) :
    Reads rest (r.positional d index draft (f :: fs) text)
      (r.fill n index draft (f :: fs) (v :: vs)) := by
  have hread := hf d draft v tail hv hd ht
  rw [Record.positional, hn, Record.fill]
  cases hc : f.convert draft v with
  | error c =>
    rw [hc] at hread
    obtain ⟨fault, hfault, hm⟩ := hread
    exact ⟨fault, by simp only [hfault], hm⟩
  | ok draft' =>
    rw [hc] at hread
    have hread : (f.read d draft).run (v.chars ++ tail) = .ok (draft', tail) := hread
    simp only [hread]
    exact hrest draft'

/-- The further items of a list fill the fields that are left. -/
theorem Record.positional_reads (hf : ∀ f ∈ fs, f.Faithful)
    (hvs : ∀ v ∈ vs, v.Regular ∧ v.depth ≤ d) (rest : List Char) :
    Reads rest (r.positional d (index + 1) draft fs (Value.itemsChars vs ++ rest))
      (r.fill n (index + 1) draft fs vs) := by
  induction fs generalizing index draft vs with
  | nil =>
    cases vs with
    | nil => rfl
    | cons v vs =>
      obtain ⟨c, cs, hc, ho⟩ := (hvs v (by simp)).1.chars_cons
      have hend : listEnd (Value.itemsChars (v :: vs) ++ rest) =
          .error (.next .trailingCharacters (v.chars ++ (Value.itemsChars vs ++ rest))) := by
        rw [Value.itemsChars, hc]
        simpa using listEnd_comma ho (cs ++ (Value.itemsChars vs ++ rest))
      rw [Record.positional, hend]
      exact ⟨_, rfl, .tooLong n⟩
  | cons f fs ih =>
    cases vs with
    | nil => exact .positional_done rfl
    | cons v vs =>
      have hv := hvs v (by simp)
      exact .positional_cons (hf f (by simp)) (nextItem_itemsChars hv.1 vs rest) hv.1 hv.2
        (itemsChars_ends vs rest)
        fun draft => ih (fun g hg => hf g (by simp [hg])) fun w hw => hvs w (by simp [hw])

/-- A record written as a list: its items fill the fields in their order. -/
theorem Record.fill_reads (hf : ∀ f ∈ fs, f.Faithful)
    (hvs : ∀ v ∈ vs, v.Regular ∧ v.depth ≤ d) (rest : List Char) :
    Reads rest (r.positional d 0 draft fs (Value.listBody vs ++ rest)) (r.fill n 0 draft fs vs) := by
  cases fs with
  | nil =>
    cases vs with
    | nil => rfl
    | cons v vs =>
      obtain ⟨c, cs, hc, ho⟩ := (hvs v (by simp)).1.chars_cons
      have hend : listEnd (Value.listBody (v :: vs) ++ rest) =
          .error (.next .trailingCharacters (v.chars ++ (Value.itemsChars vs ++ rest))) := by
        rw [Value.listBody, hc]
        simpa using listEnd_trailing ho (cs ++ (Value.itemsChars vs ++ rest))
      rw [Record.positional, hend]
      exact ⟨_, rfl, .tooLong n⟩
  | cons f fs =>
    cases vs with
    | nil => exact .positional_done rfl
    | cons v vs =>
      have hv := hvs v (by simp)
      exact .positional_cons (hf f (by simp)) (nextItem_listBody hv.1 vs rest) hv.1 hv.2
        (itemsChars_ends vs rest) fun draft =>
          r.positional_reads (fun g hg => hf g (by simp [hg])) (fun w hw => hvs w (by simp [hw])) rest

theorem Record.run_object_reads (hf : ∀ f ∈ r.fields, f.Faithful)
    (hms : ∀ m ∈ ms, m.2.Regular ∧ m.2.depth ≤ d) (rest : List Char) :
    Reads rest (r.run (d + 1) ((Value.object ms).chars ++ rest)) (r.ofValue (.object ms)) := by
  rw [chars_object]
  exact (r.collect_reads hf hms rest).checked r.build

theorem Record.run_array_reads (hf : ∀ f ∈ r.fields, f.Faithful)
    (hvs : ∀ v ∈ vs, v.Regular ∧ v.depth ≤ d) (rest : List Char) :
    Reads rest (r.run (d + 1) ((Value.array vs).chars ++ rest)) (r.ofValue (.array vs)) := by
  rw [chars_array]
  exact (r.fill_reads hf hvs rest).checked r.build

/-- What is neither is refused for its type. -/
theorem Record.run_other {c : Char} (ho : opensValue c) (hlist : c ≠ '[') (hobject : c ≠ '{')
    (text : List Char) :
    r.run d (c :: text) = .error (mismatch (.record r.name) (c :: text)) := by
  unfold Record.run
  simp only [skipSpace_of_opensValue ho]
  split
  · contradiction
  · next he =>
    cases he
    contradiction
  · next he =>
    cases he
    contradiction
  · next he =>
    cases he
    contradiction
  · next he =>
    cases he
    contradiction
  · rfl

/-- Reading a record from the text of a value agrees with converting the value. -/
theorem Record.run_reads (hf : ∀ f ∈ r.fields, f.Faithful) (h : v.Regular) (hd : v.depth ≤ d)
    (hr : continuesNumber rest = false) :
    Reads rest (r.run d (v.chars ++ rest)) (r.ofValue v) := by
  cases h with
  | null => exact .mismatch .null hr (r.run_other rfl (by decide) (by decide) _)
  | boolean b =>
    cases b <;> exact .mismatch (.boolean _) hr (r.run_other rfl (by decide) (by decide) _)
  | integer n =>
    refine .mismatch (.integer n) hr ?_
    obtain ⟨c, cs, hc, ho, hm⟩ := intChars_cons n
    rw [Value.chars, Number.chars, hc]
    exact r.run_other ho (fun he => hm (by simp [he])) (fun he => hm (by simp [he])) _
  | string s => exact .mismatch (.string s) hr (r.run_other rfl (by decide) (by decide) _)
  | array hvs =>
    cases d with
    | zero => exact absurd hd (Nat.not_succ_le_zero _)
    | succ d =>
      have hdepth := itemsDepth_le.mp (Nat.le_of_succ_le_succ hd)
      exact r.run_array_reads hf (fun v hv => ⟨hvs v hv, hdepth v hv⟩) rest
  | object hms =>
    cases d with
    | zero => exact absurd hd (Nat.not_succ_le_zero _)
    | succ d =>
      have hdepth := membersDepth_le.mp (Nat.le_of_succ_le_succ hd)
      exact r.run_object_reads hf (fun m hm => ⟨hms m hm, hdepth m hm⟩) rest

theorem Reads.whole {reader : Reader α} {y : Except Cause α} {text : List Char}
    (h : Reads [] (reader.run text) y) : Agrees (reader.whole text) y := by
  unfold Reader.whole
  cases y with
  | ok a =>
    have h : reader.run text = .ok (a, []) := h
    rw [h]
    rfl
  | error c =>
    obtain ⟨f, hf, hc⟩ := h
    exact ⟨f, by rw [hf], hc⟩

/-- Parsing the text of a value as a record agrees with converting the value. -/
theorem Record.parse_agrees (hf : ∀ f ∈ r.fields, f.Faithful) (h : v.Regular)
    (hd : v.depth ≤ maxDepth) : Agrees (r.parse v.chars) (r.ofValue v) := by
  have hreads : Reads [] ((r.reader maxDepth).run (v.chars ++ [])) (r.ofValue v) :=
    r.run_reads hf h hd rfl
  rw [List.append_nil] at hreads
  exact hreads.whole

/-- The members of the text of a record need not be in order. -/
theorem Record.parse_object_agrees (hf : ∀ f ∈ r.fields, f.Faithful)
    (hms : ∀ m ∈ ms, m.2.Regular ∧ m.2.depth < maxDepth) :
    Agrees (r.parse (Value.object ms).chars) (r.ofValue (.object ms)) := by
  have hreads : Reads [] ((r.reader maxDepth).run ((Value.object ms).chars ++ []))
      (r.ofValue (.object ms)) :=
    r.run_object_reads hf (fun m hm => ⟨(hms m hm).1, Nat.le_of_lt_succ (hms m hm).2⟩) []
  rw [List.append_nil] at hreads
  exact hreads.whole

end Switchboard.Json
