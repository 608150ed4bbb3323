import Switchboard.Address.Host
import Switchboard.Proofs.Text.Octets

namespace Switchboard.Text

/-- Nothing is composed with a colon. -/
theorem composites_without_colon : ∀ p ∈ composites, p.base ≠ ':' ∧ p.added ≠ ':' := by
  have hall : (composites.all fun p => p.base != ':' && p.added != ':') = true := by
    decide +kernel
  simpa using hall

theorem compose?_colon (c : Char) : compose? ':' c = none ∧ compose? c ':' = none := by
  have hcolon : ':'.toNat = 0x3A := rfl
  have hsyllable : syllable ':' c = none ∧ syllable c ':' = none := by
    simp only [syllable, hcolon]
    refine ⟨?_, ?_⟩ <;> rw [if_neg (by omega), if_neg (by omega)]
  have hfirst : composites.find? (fun p => p.base == ':' && p.added == c) = none :=
    List.find?_eq_none.mpr fun p hp => by simp [(composites_without_colon p hp).1]
  have hsecond : composites.find? (fun p => p.base == c && p.added == ':') = none :=
    List.find?_eq_none.mpr fun p hp => by simp [(composites_without_colon p hp).2]
  simp [compose?, hsyllable, hfirst, hsecond]

theorem mem_insertMark (c d : Char) (ds : List Char) :
    d ∈ insertMark c ds ↔ d = c ∨ d ∈ ds := by
  induction ds with
  | nil => simp [insertMark]
  | cons e ds ih =>
    unfold insertMark
    split
    · simp only [List.mem_cons, ih]
      tauto
    · simp

theorem mem_orderMarks {d : Char} {cs : List Char} : d ∈ orderMarks cs ↔ d ∈ cs := by
  have hfold : ∀ (cs done : List Char),
      d ∈ cs.foldl (fun done c => insertMark c done) done ↔ d ∈ cs ∨ d ∈ done := by
    intro cs
    induction cs with
    | nil => simp
    | cons c cs ih =>
      intro done
      simp only [List.foldl_cons, ih, mem_insertMark, List.mem_cons]
      tauto
  simp [orderMarks, hfold]

/-- A character is added to the base, becomes one itself, or joins the marks. -/
theorem Composing.take_cases (s : Composing) (c : Char) :
    (∃ b w, s.base = some b ∧ compose? b c = some w ∧ s.take c = { s with base := some w }) ∨
      (s.take c).all = c :: s.all := by
  unfold take
  dsimp only
  split
  · next w hw =>
    left
    obtain ⟨b, hb, hcompose⟩ := Option.bind_eq_some_iff.mp (Option.ite_none_left_eq_some.mp hw).2
    exact ⟨b, w, hb, hcompose, rfl⟩
  · right
    split <;> rfl

/-- A colon that has been taken is neither the base of a composite nor added to one. -/
theorem Composing.colon_take {s : Composing} {c : Char} (h : ':' ∈ s.all ∨ c = ':') :
    ':' ∈ (s.take c).all := by
  rcases s.take_cases c with ⟨b, w, hb, hw, htake⟩ | htake
  · have hbase : ':' ≠ b := by
      rintro rfl
      exact absurd hw (by simp [(compose?_colon c).1])
    have hadded : c ≠ ':' := by
      rintro rfl
      exact absurd hw (by simp [(compose?_colon b).2])
    have hold := h.resolve_right hadded
    simp only [all, hb, Option.toList_some, List.mem_append, List.mem_singleton] at hold
    simp only [htake, all, Option.toList_some, List.mem_append]
    tauto
  · rw [htake, List.mem_cons]
    exact h.symm.imp_left Eq.symm

/-- A colon stays where a text is brought into its normal form. -/
theorem colon_mem_composed {cs : List Char} (h : ':' ∈ cs) : ':' ∈ composed cs := by
  have hfold : ∀ (cs : List Char) (s : Composing), ':' ∈ s.all ∨ ':' ∈ cs →
      ':' ∈ (cs.foldl Composing.take s).all := by
    intro cs
    induction cs with
    | nil => simp
    | cons c cs ih =>
      intro s hs
      rw [List.foldl_cons]
      refine ih _ ?_
      rcases hs with hs | hs
      · exact .inl (Composing.colon_take (.inl hs))
      · rcases List.mem_cons.mp hs with hc | hs
        · exact .inl (Composing.colon_take (.inr hc.symm))
        · exact .inr hs
  unfold composed
  split
  · exact h
  · have hdecomposed : ':' ∈ cs.flatMap (decompose nesting) :=
      List.mem_flatMap.mpr ⟨':', h, by decide⟩
    rw [List.mem_reverse]
    exact hfold _ _ (.inr (mem_orderMarks.mpr hdecomposed))

/-- What a function makes of a list, element by element. -/
theorem mem_of_mapM {f : α → Option β} {xs : List α} {ys : List β} {x : α}
    (h : xs.mapM f = some ys) (hx : x ∈ xs) : ∃ y ∈ ys, f x = some y := by
  induction xs generalizing ys with
  | nil => cases hx
  | cons a xs ih =>
    simp only [List.mapM_cons, bind, Option.bind_eq_some_iff, pure, Option.some.injEq] at h
    obtain ⟨b, hb, bs, hbs, rfl⟩ := h
    rcases List.mem_cons.mp hx with rfl | hx
    · exact ⟨b, List.mem_cons_self, hb⟩
    · obtain ⟨y, hy, hfy⟩ := ih hbs hx
      exact ⟨y, List.mem_cons_of_mem _ hy, hfy⟩

/-- A colon folds to itself. -/
theorem colon_mem_foldAll {cs folded : List Char} (h : foldAll cs = some folded) (hc : ':' ∈ cs) :
    ':' ∈ folded := by
  obtain ⟨pieces, hpieces, rfl⟩ := Option.map_eq_some_iff.mp h
  obtain ⟨piece, hpiece, hfold⟩ := mem_of_mapM hpieces hc
  have hself : fold ':' = some [':'] := by decide
  rw [hself] at hfold
  cases hfold
  exact List.mem_flatten.mpr ⟨[':'], hpiece, List.mem_singleton.mpr rfl⟩

end Switchboard.Text

namespace Switchboard.Address

theorem splitAt_ne_nil (mark : Char → Bool) (cs : List Char) : splitAt mark cs ≠ [] := by
  cases cs with
  | nil => simp [splitAt]
  | cons c cs =>
    unfold splitAt
    split
    · simp
    · split <;> simp

/-- A character that does not separate is the first of the first piece. -/
theorem splitAt_cons {mark : Char → Bool} {c : Char} (h : mark c = false) (cs : List Char) :
    splitAt mark (c :: cs) = (c :: (splitAt mark cs).headD []) :: (splitAt mark cs).tail := by
  simp only [splitAt, h, Bool.false_eq_true, if_false]
  split
  · rename_i hnil
    exact absurd hnil (splitAt_ne_nil mark cs)
  · simp [*]

/-- What separates cuts a text in two, and the pieces are those of the two. -/
theorem splitAt_append_cons {mark : Char → Bool} {m : Char} (h : mark m = true)
    (xs ys : List Char) : splitAt mark (xs ++ m :: ys) = splitAt mark xs ++ splitAt mark ys := by
  induction xs with
  | nil => simp [splitAt, h]
  | cons c xs ih =>
    cases hc : mark c with
    | true => simp [splitAt, hc, ih]
    | false =>
      rw [List.cons_append, splitAt_cons hc, splitAt_cons hc]
      obtain ⟨p, ps, hp⟩ := List.exists_cons_of_ne_nil (splitAt_ne_nil mark xs)
      simp [ih, hp]

theorem splitAt_of_unmarked {mark : Char → Bool} {cs : List Char} (h : ∀ c ∈ cs, mark c = false) :
    splitAt mark cs = [cs] := by
  induction cs with
  | nil => rfl
  | cons c cs ih =>
    obtain ⟨hc, hcs⟩ := List.forall_mem_cons.mp h
    simp [splitAt_cons hc, ih hcs]

/-- What does not separate ends up in the last piece. -/
theorem splitAt_append_of_unmarked {mark : Char → Bool} {zs : List Char}
    (h : ∀ c ∈ zs, mark c = false) (xs : List Char) :
    ∃ pieces piece, splitAt mark (xs ++ zs) = pieces ++ [piece ++ zs] := by
  induction xs with
  | nil => exact ⟨[], [], by simp [splitAt_of_unmarked h]⟩
  | cons c xs ih =>
    obtain ⟨pieces, piece, ih⟩ := ih
    cases hc : mark c with
    | true => exact ⟨[] :: pieces, piece, by simp [splitAt, hc, ih]⟩
    | false =>
      rw [List.cons_append, splitAt_cons hc]
      cases pieces with
      | nil => exact ⟨[], c :: piece, by simp [ih]⟩
      | cons p pieces => exact ⟨(c :: p) :: pieces, piece, by simp [ih]⟩

/-- What does not separate is in one of the pieces. -/
theorem mem_splitAt {mark : Char → Bool} {c : Char} (hc : mark c = false) {cs : List Char}
    (h : c ∈ cs) : ∃ piece ∈ splitAt mark cs, c ∈ piece := by
  induction cs with
  | nil => cases h
  | cons d cs ih =>
    cases hd : mark d with
    | true =>
      rcases List.mem_cons.mp h with rfl | h
      · simp [hc] at hd
      · obtain ⟨piece, hp, hcp⟩ := ih h
        exact ⟨piece, by simp [splitAt, hd, hp], hcp⟩
    | false =>
      rw [splitAt_cons hd]
      rcases List.mem_cons.mp h with rfl | h
      · exact ⟨_, List.mem_cons_self, List.mem_cons_self⟩
      · obtain ⟨piece, hp, hcp⟩ := ih h
        obtain ⟨p, ps, hps⟩ := List.exists_cons_of_ne_nil (splitAt_ne_nil mark cs)
        simp only [hps, List.headD_cons, List.tail_cons, List.mem_cons] at hp ⊢
        rcases hp with rfl | hp
        · exact ⟨d :: piece, .inl rfl, List.mem_cons_of_mem _ hcp⟩
        · exact ⟨piece, .inr hp, hcp⟩

/-- A label with a colon is written with one, be it in Punycode or not. -/
theorem colon_mem_plain {cs : List Char} {label : Label} (h : Label.read cs = some label)
    (hc : ':' ∈ cs) : ':' ∈ label.plain := by
  have hpuny : ':' ∈ punycode cs := by
    have hplain : ':' ∈ cs.filter (·.toNat < 0x80) := List.mem_filter.mpr ⟨hc, by decide⟩
    simp only [punycode, List.mem_append]
    exact .inl (.inl hplain)
  unfold Label.read at h
  split at h
  · obtain ⟨shown, -, h⟩ := Option.bind_eq_some_iff.mp h
    split at h
    · cases h
      exact hc
    · cases h
  · split at h
    · cases h
      exact hc
    · split at h
      · cases h
        exact List.mem_append_right _ hpuny
      · cases h

theorem mem_intercalate {sep : List Char} {c : Char} {piece : List Char} {pieces : List (List Char)}
    (hp : piece ∈ pieces) (hc : c ∈ piece) : c ∈ List.intercalate sep pieces := by
  induction pieces with
  | nil => cases hp
  | cons p ps ih =>
    cases ps with
    | nil =>
      obtain rfl := List.mem_singleton.mp hp
      simpa [List.intercalate] using hc
    | cons q ps =>
      rw [List.intercalate_cons_cons, List.mem_append, List.mem_append]
      rcases List.mem_cons.mp hp with rfl | hp
      · exact .inl (.inl hc)
      · exact .inr (ih hp)

/-- No name holds a colon. -/
theorem plainName_colon {cs : List Char} (h : ':' ∈ cs) : plainName cs = none := by
  refine Option.eq_none_iff_forall_ne_some.mpr fun name hname => ?_
  obtain ⟨folded, hfolded, hname⟩ := Option.bind_eq_some_iff.mp hname
  obtain ⟨labels, hlabels, hname⟩ := Option.bind_eq_some_iff.mp hname
  have hcomposed := Text.colon_mem_composed (Text.colon_mem_foldAll hfolded h)
  have hpieces : ∃ piece ∈ splitAt (· == '.') (Text.composed folded), ':' ∈ piece :=
    mem_splitAt rfl hcomposed
  obtain ⟨piece, hpiece, hc⟩ := hpieces
  obtain ⟨label, hlabel, hread⟩ := Text.mem_of_mapM hlabels hpiece
  have hplain : ':' ∈ List.intercalate ['.'] (labels.map (·.plain)) :=
    mem_intercalate (List.mem_map_of_mem hlabel) (colon_mem_plain hread hc)
  have hoff : (List.intercalate ['.'] (labels.map (·.plain))).any offName = true :=
    List.any_eq_true.mpr ⟨':', hplain, by decide⟩
  simp [hoff] at hname

end Switchboard.Address
