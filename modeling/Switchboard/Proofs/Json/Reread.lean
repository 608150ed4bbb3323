import Switchboard.Proofs.Json.Record
import Switchboard.Proofs.Json.Skipped

namespace Switchboard.Json

variable {text rest s : List Char} {d : Nat}

/-- A field stops where passing over its value stops, whatever follows, and takes from the text what
its conversion takes from the value. -/
structure Field.Sound (f : Field σ) : Prop where
  spans : ∀ d draft, Spans (f.read d draft)
  followed : ∀ d draft text draft' rest s, continuesNumber s = false → ¬ Newline s →
    (f.read d draft).run text = .ok (draft', rest) →
    (f.read d draft).run (text ++ s) = .ok (draft', rest ++ s)
  converts : ∀ d draft text draft' v rest, (f.read d draft).run text = .ok (draft', rest) →
    (value d).run text = .ok (v, rest) → f.convert draft v = .ok draft'

/-- A field is sound if its reader stops where passing over does, whatever follows, and reads what
its conversion makes of the value. -/
theorem Field.Sound.of_reader {f : Field σ} (reader : Nat → Reader α)
    (convert : Value → Except Cause α) {g : σ → α → σ} (hspans : ∀ d, Spans (reader d))
    (hfollowed : ∀ d text a rest s, continuesNumber s = false → ¬ Newline s →
      (reader d).run text = .ok (a, rest) → (reader d).run (text ++ s) = .ok (a, rest ++ s))
    (hconverts : ∀ d text a v rest, (reader d).run text = .ok (a, rest) →
      (value d).run text = .ok (v, rest) → convert v = .ok a)
    (hread : ∀ d draft, f.read d draft = (reader d).map (g draft))
    (hconvert : ∀ draft v, f.convert draft v = (convert v).map (g draft)) : f.Sound where
  spans d draft := hread d draft ▸ (hspans d).map _
  followed d draft text draft' rest s hs hn h := by
    rw [hread, Reader.map_run] at h ⊢
    obtain ⟨⟨a, last⟩, ha, hlast⟩ := map_eq_ok h
    cases hlast
    rw [hfollowed d text a _ s hs hn ha]
    rfl
  converts d draft text draft' v rest h hv := by
    rw [hread, Reader.map_run] at h
    obtain ⟨⟨a, last⟩, ha, hlast⟩ := map_eq_ok h
    cases hlast
    rw [hconvert, hconverts d text a v _ ha hv]
    rfl

theorem NumberAt.followed {n : Number} (hs : continuesNumber s = false) (h : NumberAt text n rest) :
    NumberAt (text ++ s) n (rest ++ s) := by
  rcases h with ⟨ht, h⟩ | ⟨ht, hc, h⟩
  · exact .negative (skipSpace_append_cons ht) (h ▸ number_lengthened hs true _).of_ok
  · exact .positive (skipSpace_append_cons ht) hc (h ▸ number_lengthened hs false (_ :: _)).of_ok

theorem NumberAt.value_run {n : Number} (h : NumberAt text n rest) (d : Nat) :
    (value d).run text = .ok (.number n, rest) := by
  obtain ⟨list, object, hv⟩ := Json.value_run d text
  rw [hv]
  rcases h with ⟨ht, h⟩ | ⟨ht, hc, h⟩
  · simp only [ht, valueWith, h]
    rfl
  · rw [ht, valueWith_digit hc, h]
    rfl

/-- A value is read the same with text behind it on the same line. -/
theorem value_followed (hs : continuesNumber s = false) (hn : ¬ Newline s) {v : Value}
    (h : (value d).run text = .ok (v, rest)) : (value d).run (text ++ s) = .ok (v, rest ++ s) := by
  obtain ⟨c, tail, ht⟩ := value_opens h
  have hne : skipSpace text ≠ [] := by simp [ht]
  have honward := value_onward (.of_inline hs hn) d hne
  rw [h] at honward
  exact honward.of_ok

variable {r : Record σ α} {draft draft' : σ} {fs : List (Field σ)}

/-- A member stops where its value stops, be it read into a field or passed over. -/
theorem Record.member_spans (hf : ∀ f ∈ r.fields, f.Sound) (d : Nat) (draft : σ) (k : String) :
    SpansMember (r.member d draft k) := by
  unfold Record.member
  cases hfield : r.field? k with
  | none => exact (Spans.map skip_spans _).afterColon
  | some f =>
    simp only
    split
    · intro nests text a rest h
      contradiction
    · exact ((hf f (List.mem_of_find?_eq_some hfield)).spans d draft).afterColon

theorem afterColon_ok {reader : Reader α} {a : α} :
    reader.afterColon.run text = .ok (a, rest) ↔
      ∃ u, colon text = .ok u ∧ reader.run u = .ok (a, rest) := by
  simp only [Reader.afterColon]
  cases colon text <;> simp

/-- A member taken into a draft is the member with the value that stands there. -/
theorem Record.member_enter (hf : ∀ f ∈ r.fields, f.Sound) {k : String} {v : Value}
    {rest' : List Char} (h : (r.member d draft k).run text = .ok (draft', rest))
    (hv : (value d).afterColon.run text = .ok (v, rest')) :
    rest = rest' ∧ r.enter draft (k, v) = .ok draft' := by
  obtain ⟨u, hu, hv⟩ := afterColon_ok.mp hv
  unfold Record.member at h
  unfold Record.enter
  cases hfield : r.field? k with
  | none =>
    simp only [hfield] at h
    obtain ⟨u', hu', h⟩ := afterColon_ok.mp h
    cases hu.symm.trans hu'
    rw [Reader.map_run] at h
    obtain ⟨⟨a, last⟩, hskip, hlast⟩ := map_eq_ok h
    cases hlast
    exact ⟨skip_spans.rest_eq (value_spans d) hskip hv, rfl⟩
  | some f =>
    have hsound := hf f (List.mem_of_find?_eq_some hfield)
    simp only [hfield] at h ⊢
    split at h
    · contradiction
    · next hset =>
      obtain ⟨u', hu', h⟩ := afterColon_ok.mp h
      cases hu.symm.trans hu'
      have hrest := (hsound.spans d draft).rest_eq (value_spans d) h hv
      subst hrest
      rw [if_neg hset]
      exact ⟨rfl, hsound.converts d draft u draft' v rest h hv⟩

def appendMember (item : Reader Value) (ms : List (String × Value)) (k : String) :
    Reader (List (String × Value)) :=
  (item.map fun v => ms ++ [(k, v)]).afterColon

theorem appendMember_ok {item : Reader Value} {ms ms' : List (String × Value)} {k : String} :
    (appendMember item ms k).run text = .ok (ms', rest) ↔
      ∃ v, item.afterColon.run text = .ok (v, rest) ∧ ms' = ms ++ [(k, v)] := by
  simp only [appendMember, afterColon_ok, Reader.map_run]
  constructor
  · rintro ⟨u, hu, h⟩
    obtain ⟨⟨v, last⟩, hv, hlast⟩ := map_eq_ok h
    cases hlast
    exact ⟨v, ⟨u, hu, hv⟩, rfl⟩
  · rintro ⟨v, ⟨u, hu, hv⟩, rfl⟩
    exact ⟨u, hu, by rw [hv]; rfl⟩

/-- Reading members into what is made of a collection makes the same of what they are read into. -/
theorem membersInto_map {member : σ → String → Reader σ} {member' : τ → String → Reader τ}
    (g : σ → τ)
    (h : ∀ acc k text, (member' (g acc) k).run text =
      ((member acc k).run text).map fun (acc, rest) => (g acc, rest))
    (acc : σ) (first : Bool) (text : List Char) :
    membersInto member' (g acc) first text =
      (membersInto member acc first text).map fun (acc, rest) => (g acc, rest) := by
  fun_induction membersInto member acc first text with
  | case1 acc first text f ht => rw [membersInto_fault ht]; rfl
  | case2 acc first text rest ht => rw [membersInto_done ht]; rfl
  | case3 acc first text entry ht f hk => rw [membersInto_key_fault ht hk]; rfl
  | case4 acc first text entry ht k value hk f hm =>
    rw [membersInto_entry ht hk, h, hm]
    rfl
  | case5 acc first text entry ht k value hk acc' tail hm ih =>
    rw [membersInto_entry ht hk, h, hm]
    exact ih

/-- The members of an object come from those that are written, in their order. -/
theorem membersInto_written (item : Reader Value) (first : Bool) (text : List Char) :
    membersInto (addMember item) [] first text =
      (membersInto (appendMember item) [] first text).map fun (ws, rest) => (members ws, rest) := by
  refine membersInto_map members (fun ws k text => ?_) [] first text
  simp only [addMember, appendMember, Reader.afterColon]
  cases colon text with
  | error f => rfl
  | ok u =>
    simp only [Reader.map_run]
    cases item.run u with
    | error f => rfl
    | ok p => simp [Except.map, members]

/-- The members of a record are those of the value, as they are written. -/
theorem Record.members_enter (hf : ∀ f ∈ r.fields, f.Sound) {first : Bool} {rest' : List Char}
    {ms ms' : List (String × Value)}
    (h : membersInto (r.member d) draft first text = .ok (draft', rest))
    (hv : membersInto (appendMember (value d)) ms first text = .ok (ms', rest')) :
    ∃ ws : List (String × Value), ws.foldlM r.enter draft = .ok draft' ∧ ms' = ms ++ ws := by
  rw [membersInto_iff] at h
  induction h generalizing ms with
  | done ht =>
    rw [membersInto_done ht] at hv
    cases hv
    exact ⟨[], rfl, (List.append_nil _).symm⟩
  | @entry first text entry member tail rest k draft draft₁ draft' ht hk hm _ ih =>
    rw [membersInto_entry ht hk] at hv
    split at hv
    · contradiction
    next ms₁ tail' hadd =>
    obtain ⟨v, hvalue, rfl⟩ := appendMember_ok.mp hadd
    obtain ⟨rfl, henter⟩ := r.member_enter hf hm hvalue
    obtain ⟨ws, hws, rfl⟩ := ih hv
    refine ⟨(k, v) :: ws, ?_, List.append_assoc ..⟩
    rw [List.foldlM_cons, henter]
    exact hws

theorem listEnd_iff : listEnd text = .ok rest ↔ skipSpace text = ']' :: rest := by
  constructor
  · intro h
    unfold listEnd at h
    split at h
    · contradiction
    · cases h
      assumption
    · split at h <;> contradiction
    · contradiction
  · intro h
    simp [listEnd, h]

/-- The fields of a list stop where passing over its items stops. -/
theorem Record.positional_spans (hf : ∀ f ∈ fs, f.Sound) {index : Nat}
    (h : r.positional d index draft fs text = .ok (draft', rest)) (nests : List Nest) :
    ∃ turn, nextItem (index = 0) text = .ok turn ∧
      passItem nests turn = skipNested nests .after rest := by
  induction fs generalizing index draft text with
  | nil =>
    obtain ⟨last, hend, hlast⟩ := map_eq_ok h
    cases hlast
    exact ⟨_, nextItem_iff.mpr (.done (listEnd_iff.mp hend)), rfl⟩
  | cons f fs ih =>
    rw [Record.positional] at h
    cases ht : nextItem (index = 0) text with
    | error e =>
      rw [ht] at h
      contradiction
    | ok turn =>
      rw [ht] at h
      refine ⟨turn, rfl, ?_⟩
      cases turn with
      | done last =>
        simp only at h
        split at h
        · contradiction
        · cases h
          rfl
      | entry item =>
        simp only at h
        split at h
        · contradiction
        next draft₁ tail hr =>
        obtain ⟨turn, hturn, hpass⟩ := ih (fun g hg => hf g (by simp [hg])) h
        have hspan := (hf f (by simp)).spans d draft (.list :: nests) item draft₁ tail hr
        rw [passItem, hspan, skipNested_item hturn, hpass]

/-- The fields of a list are filled with the items of the value. -/
theorem Record.positional_fill (hf : ∀ f ∈ fs, f.Sound) {index n : Nat} {vs : List Value}
    {rest' : List Char} (h : r.positional d index draft fs text = .ok (draft', rest))
    (hv : items (value d) (index = 0) text = .ok (vs, rest')) :
    r.fill n index draft fs vs = .ok draft' := by
  induction fs generalizing index draft text vs with
  | nil =>
    obtain ⟨last, hend, hlast⟩ := map_eq_ok h
    cases hlast
    rw [items_done (nextItem_iff.mpr (.done (listEnd_iff.mp hend)))] at hv
    cases hv
    rfl
  | cons f fs ih =>
    rw [Record.positional] at h
    cases ht : nextItem (index = 0) text with
    | error e =>
      rw [ht] at h
      contradiction
    | ok turn =>
      rw [ht] at h
      cases turn with
      | done last =>
        rw [items_done ht] at hv
        cases hv
        simp only at h
        split at h
        · contradiction
        · next hshort =>
          cases h
          simp only [Record.fill, hshort]
      | entry item =>
        rw [items_entry ht] at hv
        simp only at h
        split at h
        · contradiction
        next draft₁ tail hr =>
        split at hv
        · contradiction
        next v tail' hvalue =>
        obtain ⟨⟨vs, last⟩, hvs, hlast⟩ := map_eq_ok hv
        cases hlast
        -- The field and the value end at the same place, so the items behind them are the same.
        have hsound := hf f (by simp)
        have htail := (hsound.spans d draft).rest_eq (value_spans d) hr hvalue
        subst htail
        rw [Record.fill, hsound.converts d draft item draft₁ v tail hr hvalue]
        exact ih (fun g hg => hf g (by simp [hg])) h hvs

inductive Record.Runs (r : Record σ α) (text : List Char) (a : α) (rest : List Char) : Nat → Prop
  | list {d : Nat} {u : List Char} {draft : σ} (ht : skipSpace text = '[' :: u)
      (h : r.positional d 0 r.empty r.fields u = .ok (draft, rest)) (hb : r.build draft = .ok a) :
      Runs r text a rest (d + 1)
  | object {d : Nat} {u : List Char} {draft : σ} (ht : skipSpace text = '{' :: u)
      (h : membersInto (r.member d) r.empty true u = .ok (draft, rest))
      (hb : r.build draft = .ok a) : Runs r text a rest (d + 1)

theorem Record.run_iff {a : α} : r.run d text = .ok (a, rest) ↔ r.Runs text a rest d := by
  constructor
  · intro h
    unfold Record.run at h
    split at h
    · contradiction
    · contradiction
    · contradiction
    · next ht =>
      obtain ⟨draft, hr, hb⟩ := checked_ok h
      exact .list ht hr hb
    · next ht =>
      obtain ⟨draft, hr, hb⟩ := checked_ok h
      exact .object ht hr hb
    · contradiction
  · rintro (⟨ht, h, hb⟩ | ⟨ht, h, hb⟩)
    · simp only [Record.run, ht, h, checked, hb]
    · simp only [Record.run, ht, h, checked, hb]

/-- A record stops where passing over a value stops. -/
theorem Record.run_spans (hf : ∀ f ∈ r.fields, f.Sound) (d : Nat) : Spans (r.reader d) := by
  intro nests text a rest h
  rcases Record.run_iff.mp h with ⟨ht, hr, -⟩ | ⟨ht, hr, -⟩
  · obtain ⟨turn, hturn, hpass⟩ := Record.positional_spans hf hr nests
    rw [skipNested_list ht hturn, hpass]
  · obtain ⟨turn, hturn, hpass⟩ := membersInto_spans (r.member_spans hf _) hr nests
    rw [skipNested_object ht hturn, hpass]

/-- A text that is read as a record and as a value. -/
theorem Record.run_value (hf : ∀ f ∈ r.fields, f.Sound) {a : α} {v : Value} {rest' : List Char}
    (h : r.run d text = .ok (a, rest)) (hv : (value d).run text = .ok (v, rest')) :
    (∃ vs, v = .array vs ∧ r.ofValue (.array vs) = .ok a) ∨
      ∃ ws, v = .object (members ws) ∧ r.ofValue (.object ws) = .ok a := by
  rcases Record.run_iff.mp h with ⟨ht, hr, hb⟩ | ⟨ht, hr, hb⟩
  · simp only [value, Reader.spaced, ht, valueWith] at hv
    obtain ⟨⟨vs, last⟩, hvs, hlast⟩ := map_eq_ok hv
    cases hlast
    left
    refine ⟨vs, rfl, ?_⟩
    rw [Record.ofValue, Record.positional_fill hf hr hvs]
    exact hb
  · simp only [value, Reader.spaced, ht, valueWith] at hv
    obtain ⟨⟨ms, last⟩, hms, hlast⟩ := map_eq_ok hv
    cases hlast
    right
    rw [membersInto_written] at hms
    obtain ⟨⟨ws, last⟩, hwritten, hms⟩ := map_eq_ok hms
    cases hms
    obtain ⟨taken, hws, hsame⟩ := r.members_enter hf hr hwritten
    rw [List.nil_append] at hsame
    subst hsame
    refine ⟨ws, rfl, ?_⟩
    rw [Record.ofValue, Record.collect_eq_foldlM, hws]
    exact hb

theorem Resumed.of_followed {x y : Reading α} (hn : ¬ Newline s)
    (h : ∀ a rest, x = .ok (a, rest) → y = .ok (a, rest ++ s)) : Resumed s x y := by
  cases x with
  | error f => exact .onward (.broken f y hn)
  | ok p =>
    rw [h p.1 p.2 rfl]
    exact .onward (.ok p.1 p.2)

theorem Record.member_resumed (hs : continuesNumber s = false) (hn : ¬ Newline s)
    (hf : ∀ f ∈ r.fields, f.Sound) (draft : σ) (k : String) (text : List Char) :
    Resumed s ((r.member d draft k).run text) ((r.member d draft k).run (text ++ s)) := by
  unfold Record.member
  cases hfield : r.field? k with
  | none =>
    refine .afterColon (fun h => absurd h hn) (fun text => ?_) text
    rw [Reader.map_run, Reader.map_run]
    have hskip : Resumed s (skip.run text) (skip.run (text ++ s)) :=
      .of_followed hn fun _ _ h => skip_followed hs h
    exact hskip.map fun _ => draft
  | some f =>
    simp only
    split
    · exact .onward (.error ..)
    · refine .afterColon (fun h => absurd h hn) (fun text => ?_) text
      exact .of_followed hn fun draft' rest h =>
        (hf f (List.mem_of_find?_eq_some hfield)).followed d draft text draft' rest s hs hn h

theorem Record.positional_followed (hs : continuesNumber s = false) (hn : ¬ Newline s)
    (hf : ∀ f ∈ fs, f.Sound) {index : Nat}
    (h : r.positional d index draft fs text = .ok (draft', rest)) :
    r.positional d index draft fs (text ++ s) = .ok (draft', rest ++ s) := by
  induction fs generalizing index draft text with
  | nil =>
    obtain ⟨last, hend, hlast⟩ := map_eq_ok h
    cases hlast
    rw [Record.positional, listEnd_iff.mpr (skipSpace_append_cons (listEnd_iff.mp hend))]
    rfl
  | cons f fs ih =>
    rw [Record.positional] at h ⊢
    cases ht : nextItem (index = 0) text with
    | error e =>
      rw [ht] at h
      contradiction
    | ok turn =>
      rw [ht] at h
      rw [nextItem_followed ht]
      cases turn with
      | done last =>
        simp only [Turn.followed] at h ⊢
        split at h
        · contradiction
        · next hshort =>
          cases h
          rfl
      | entry item =>
        simp only [Turn.followed] at h ⊢
        split at h
        · contradiction
        next draft₁ tail hr =>
        rw [(hf f (by simp)).followed d draft item draft₁ tail s hs hn hr]
        exact ih (fun g hg => hf g (by simp [hg])) h

/-- A record is read the same with text behind it on the same line. -/
theorem Record.run_followed (hs : continuesNumber s = false) (hn : ¬ Newline s)
    (hf : ∀ f ∈ r.fields, f.Sound) {a : α} (h : r.run d text = .ok (a, rest)) :
    r.run d (text ++ s) = .ok (a, rest ++ s) := by
  rw [Record.run_iff] at h ⊢
  cases h with
  | list ht hr hb =>
    exact .list (skipSpace_append_cons ht) (Record.positional_followed hs hn hf hr) hb
  | @object d u draft ht hr hb =>
    have hmembers := membersInto_onward (fun h => absurd h hn)
      (r.member_resumed (d := d) hs hn hf) r.empty true u
    rw [hr] at hmembers
    exact .object (skipSpace_append_cons ht) hmembers.of_ok hb

end Switchboard.Json
