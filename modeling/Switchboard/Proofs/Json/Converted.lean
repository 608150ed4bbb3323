import Switchboard.Proofs.Json.Reread
import Switchboard.Proofs.Json.Slots

namespace Switchboard.Json

variable {text rest : List Char} {d : Nat}

def Field.Complete (f : Field σ) : Prop :=
  ∀ d draft text draft' v rest, (value d).run text = .ok (v, rest) →
    f.convert draft v = .ok draft' → (f.read d draft).run text = .ok (draft', rest)

/-- A field that reads what a reader reads, and converts what the reader takes for the same, can be
read wherever its value can be read and converted. -/
theorem Field.Complete.of_reader {f : Field σ} (reader : Nat → Reader α)
    (convert : Value → Except Cause α) {g : σ → α → σ}
    (hreads : ∀ d text a v rest, (value d).run text = .ok (v, rest) → convert v = .ok a →
      (reader d).run text = .ok (a, rest))
    (hread : ∀ d draft, f.read d draft = (reader d).map (g draft))
    (hconvert : ∀ draft v, f.convert draft v = (convert v).map (g draft)) : f.Complete := by
  intro d draft text draft' v rest hv h
  rw [hconvert] at h
  cases ha : convert v with
  | error c =>
    rw [ha] at h
    contradiction
  | ok a =>
    rw [ha] at h
    cases h
    rw [hread, Reader.map_run, hreads d text a v rest hv ha]
    rfl

/-- How a value is read from a text: as a list, as an object with its members as they are written,
as a number, or as a word or a string. -/
inductive ValueAt (text rest : List Char) : Nat → Value → Prop
  | list {d : Nat} {u : List Char} {vs : List Value} (ht : skipSpace text = '[' :: u)
      (h : items (value d) true u = .ok (vs, rest)) : ValueAt text rest (d + 1) (.array vs)
  | object {d : Nat} {u : List Char} {ws : List (String × Value)} (ht : skipSpace text = '{' :: u)
      (h : membersInto (appendMember (value d)) [] true u = .ok (ws, rest)) :
      ValueAt text rest (d + 1) (.object (members ws))
  | number {d : Nat} {n : Number} (h : NumberAt text n rest) : ValueAt text rest d (.number n)
  | null {d : Nat} : ValueAt text rest d .null
  | boolean {d : Nat} (b : Bool) : ValueAt text rest d (.boolean b)
  | string {d : Nat} (s : String) : ValueAt text rest d (.string s)

theorem ValueAt.of_valueWith {list object : List Char → Reading Value} {v : Value} {c : Char}
    {tail : List Char} (ht : skipSpace text = c :: tail)
    (hl : skipSpace text = '[' :: tail → list tail = .ok (v, rest) → ValueAt text rest d v)
    (ho : skipSpace text = '{' :: tail → object tail = .ok (v, rest) → ValueAt text rest d v)
    (h : valueWith list object (c :: tail) = .ok (v, rest)) : ValueAt text rest d v := by
  by_cases hc : c ∈ ['n', 't', 'f', '-', '"', '[', '{']
  · simp only [List.mem_cons, List.not_mem_nil, or_false] at hc
    rcases hc with rfl | rfl | rfl | rfl | rfl | rfl | rfl
    · obtain ⟨last, -, hlast⟩ := map_eq_ok h
      cases hlast
      exact .null
    · obtain ⟨last, -, hlast⟩ := map_eq_ok h
      cases hlast
      exact .boolean true
    · obtain ⟨last, -, hlast⟩ := map_eq_ok h
      cases hlast
      exact .boolean false
    · obtain ⟨⟨n, last⟩, hn, hlast⟩ := map_eq_ok h
      cases hlast
      exact .number (.negative ht hn)
    · obtain ⟨⟨cs, last⟩, -, hlast⟩ := map_eq_ok h
      cases hlast
      exact .string _
    · exact hl ht h
    · exact ho ht h
  · rw [valueWith_other hc] at h
    split at h
    · next hd =>
      obtain ⟨⟨n, last⟩, hn, hlast⟩ := map_eq_ok h
      cases hlast
      exact .number (.positive ht hd hn)
    · contradiction

/-- A value that is read stands in its text in one of the forms there are. -/
theorem value_at {v : Value} (h : (value d).run text = .ok (v, rest)) : ValueAt text rest d v := by
  obtain ⟨c, tail, ht⟩ := value_opens h
  cases d with
  | zero =>
    simp only [value, Reader.spaced, ht] at h
    exact .of_valueWith ht (fun _ hl => by contradiction) (fun _ ho => by contradiction) h
  | succ d =>
    simp only [value, Reader.spaced, ht] at h
    refine .of_valueWith ht (fun hopen hl => ?_) (fun hopen ho => ?_) h
    · obtain ⟨⟨vs, last⟩, hitems, hlast⟩ := map_eq_ok hl
      cases hlast
      exact .list hopen hitems
    · obtain ⟨⟨ms, last⟩, hmembers, hlast⟩ := map_eq_ok ho
      cases hlast
      rw [membersInto_written] at hmembers
      obtain ⟨⟨ws, last⟩, hwritten, hlast⟩ := map_eq_ok hmembers
      cases hlast
      exact .object hopen hwritten

theorem insertMember_again (k : String) (v w : α) (ms : List (String × α)) :
    insertMember k w (insertMember k v ms) = insertMember k w ms := by
  induction ms with
  | nil => simp [insertMember]
  | cons m ms ih =>
    obtain ⟨l, u⟩ := m
    simp only [insertMember]
    split
    · simp [insertMember]
    split
    · simp [insertMember]
    · next hlt hne => simp only [insertMember, if_neg hlt, if_neg hne, ih]

/-- Of two members of one key, one right behind the other, the second counts. -/
theorem members_repeated (k : String) (v w : α) (ms : List (String × α)) :
    members ((k, v) :: (k, w) :: ms) = members ((k, w) :: ms) := by
  simp only [members, List.foldl_cons, insertMember_again]

/-- An object is read with its members put in order. -/
theorem value_object {u : List Char} {ws : List (String × Value)} (ht : skipSpace text = '{' :: u)
    (h : membersInto (appendMember (value d)) [] true u = .ok (ws, rest)) :
    (value (d + 1)).run text = .ok (.object (members ws), rest) := by
  simp only [value, Reader.spaced, ht, valueWith, membersInto_written, h]
  rfl

/-- An unsigned word that is read as a value is read where a word is asked for. -/
theorem unsigned_of_value {v : Value} {m : Nat} (h : (value d).run text = .ok (v, rest))
    (hv : unsignedOf v = .ok m) : unsigned.run text = .ok (m, rest) := by
  cases value_at h with
  | list | object | null | boolean | string => contradiction
  | number hn => exact unsigned_iff.mpr ⟨_, hn, hv⟩

variable {r : Record σ α} {draft draft' : σ} {fs : List (Field σ)}

/-- A member whose value can be read and taken into a draft is read into the draft. -/
theorem Record.enter_member (hf : ∀ f ∈ r.fields, f.Complete) {k : String} {v : Value}
    (hv : (value d).afterColon.run text = .ok (v, rest)) (h : r.enter draft (k, v) = .ok draft') :
    (r.member d draft k).run text = .ok (draft', rest) := by
  obtain ⟨u, hu, hv⟩ := afterColon_ok.mp hv
  unfold Record.enter at h
  unfold Record.member
  cases hfield : r.field? k with
  | none =>
    simp only [hfield] at h ⊢
    cases h
    refine afterColon_ok.mpr ⟨u, hu, ?_⟩
    have hskip := value_spans d [] u v rest hv
    rw [skipNested.eq_def [] .after] at hskip
    rw [Reader.map_run, skip_ok.mpr hskip]
    rfl
  | some f =>
    simp only [hfield] at h ⊢
    split at h
    · contradiction
    · next hset =>
      rw [if_neg hset]
      exact afterColon_ok.mpr
        ⟨u, hu, hf f (List.mem_of_find?_eq_some hfield) d draft u draft' v rest hv h⟩

/-- Members that can be read as they are written and taken into a draft are read into the draft. -/
theorem Record.enter_members (hf : ∀ f ∈ r.fields, f.Complete) {first : Bool}
    {ms ms' : List (String × Value)}
    (hv : membersInto (appendMember (value d)) ms first text = .ok (ms', rest)) :
    ∃ ws : List (String × Value), ms' = ms ++ ws ∧
      ∀ draft draft', ws.foldlM r.enter draft = .ok draft' →
        membersInto (r.member d) draft first text = .ok (draft', rest) := by
  rw [membersInto_iff] at hv
  induction hv with
  | done ht =>
    refine ⟨[], (List.append_nil _).symm, fun draft draft' h => ?_⟩
    cases h
    exact membersInto_done ht
  | @entry first text entry member tail rest k ms ms₁ ms' ht hk hm _ ih =>
    obtain ⟨v, hvalue, rfl⟩ := appendMember_ok.mp hm
    obtain ⟨ws, rfl, hws⟩ := ih
    refine ⟨(k, v) :: ws, List.append_assoc .., fun draft draft' h => ?_⟩
    rw [List.foldlM_cons] at h
    obtain ⟨draft₁, henter, hothers⟩ := bind_eq_ok.mp h
    rw [membersInto_entry ht hk, r.enter_member hf hvalue henter]
    exact hws draft₁ draft' hothers

theorem listEnd_of_done {first : Bool} (h : nextItem first text = .ok (.done rest)) :
    listEnd text = .ok rest := by
  obtain hend | _ | _ := nextItem_iff.mp h
  exact listEnd_iff.mpr hend

/-- Values that can be read one after the other and fill the fields are read into the fields. -/
theorem Record.fill_positional (hf : ∀ f ∈ fs, f.Complete) {index n : Nat} {vs : List Value}
    (hv : items (value d) (index = 0) text = .ok (vs, rest))
    (h : r.fill n index draft fs vs = .ok draft') :
    r.positional d index draft fs text = .ok (draft', rest) := by
  rw [items_iff] at hv
  induction fs generalizing index draft text vs with
  | nil =>
    cases hv with
    | done ht =>
      cases h
      rw [Record.positional, listEnd_of_done ht]
      rfl
    | entry => contradiction
  | cons f fs ih =>
    cases hv with
    | done ht =>
      rw [Record.fill] at h
      simp only [Record.positional, ht]
      cases hshort : r.tooShort index (f :: fs) with
      | some c =>
        rw [hshort] at h
        contradiction
      | none =>
        rw [hshort] at h
        cases h
        rfl
    | entry ht ha has =>
      rw [Record.fill] at h
      split at h
      · contradiction
      next draft₁ hconvert =>
      simp only [Record.positional, ht, hf f (by simp) d draft _ draft₁ _ _ ha hconvert]
      apply ih (fun g hg => hf g (by simp [hg]))
      · simpa using has
      · exact h

/-- A record is read from a list whose values fill it. -/
theorem Record.run_of_list (hf : ∀ f ∈ r.fields, f.Complete) {u : List Char} {vs : List Value}
    {a : α} (ht : skipSpace text = '[' :: u) (hv : items (value d) true u = .ok (vs, rest))
    (h : r.ofValue (.array vs) = .ok a) : r.run (d + 1) text = .ok (a, rest) := by
  obtain ⟨draft, hfill, hbuild⟩ := bind_eq_ok.mp h
  exact Record.run_iff.mpr (.list ht (r.fill_positional hf hv hfill) hbuild)

/-- A record is read from an object whose members, as they are written, fill it. -/
theorem Record.run_of_object (hf : ∀ f ∈ r.fields, f.Complete) {u : List Char}
    {ws : List (String × Value)} {a : α} (ht : skipSpace text = '{' :: u)
    (hv : membersInto (appendMember (value d)) [] true u = .ok (ws, rest))
    (h : r.ofValue (.object ws) = .ok a) : r.run (d + 1) text = .ok (a, rest) := by
  obtain ⟨draft, hcollect, hbuild⟩ := bind_eq_ok.mp h
  rw [r.collect_eq_foldlM] at hcollect
  obtain ⟨taken, rfl, hread⟩ := r.enter_members hf hv
  exact Record.run_iff.mpr (.object ht (hread r.empty draft hcollect) hbuild)

end Switchboard.Json
