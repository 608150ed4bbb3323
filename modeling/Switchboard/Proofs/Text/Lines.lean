import Switchboard.Text.Blank

namespace Switchboard.Text

variable {text line blanks : List Char}

theorem lines_ne_nil (text : List Char) : lines text ≠ [] := by
  cases text with
  | nil => exact List.cons_ne_nil _ _
  | cons c text =>
    rw [lines]
    split
    · exact List.cons_ne_nil _ _
    · split <;> exact List.cons_ne_nil _ _

theorem lines_feed (text : List Char) : lines ('\n' :: text) = [] :: lines text := rfl

theorem lines_cons {c : Char} (hc : c ≠ '\n') {text : List Char} {l : List Char}
    {ls : List (List Char)} (h : lines text = l :: ls) : lines (c :: text) = (c :: l) :: ls := by
  rw [lines, if_neg hc, h]

/-- A line feed cuts a text in two. -/
theorem lines_append_feed (text behind : List Char) :
    lines (text ++ '\n' :: behind) = lines text ++ lines behind := by
  induction text with
  | nil => rfl
  | cons c text ih =>
    by_cases hc : c = '\n'
    · subst hc
      rw [List.cons_append, lines_feed, lines_feed, ih, List.cons_append]
    · obtain ⟨l, ls, hl⟩ := List.exists_cons_of_ne_nil (lines_ne_nil text)
      rw [hl, List.cons_append] at ih
      rw [List.cons_append, lines_cons hc ih, lines_cons hc hl, List.cons_append]

theorem lines_single (h : '\n' ∉ line) : lines line = [line] := by
  induction line with
  | nil => rfl
  | cons c line ih =>
    have hc : c ≠ '\n' := fun he => h (he ▸ List.mem_cons_self)
    exact lines_cons hc (ih fun hm => h (List.mem_cons_of_mem c hm))

theorem mem_of_mem_lines {c : Char} (hl : line ∈ lines text) (hc : c ∈ line) : c ∈ text := by
  induction text generalizing line with
  | nil =>
    rw [lines, List.mem_singleton] at hl
    rwa [hl] at hc
  | cons d text ih =>
    by_cases hd : d = '\n'
    · subst hd
      rw [lines_feed, List.mem_cons] at hl
      rcases hl with rfl | hl
      · contradiction
      · exact List.mem_cons_of_mem _ (ih hl hc)
    · obtain ⟨l, ls, hlines⟩ := List.exists_cons_of_ne_nil (lines_ne_nil text)
      rw [lines_cons hd hlines, List.mem_cons] at hl
      rcases hl with rfl | hl
      · rcases List.mem_cons.mp hc with rfl | hc
        · exact List.mem_cons_self
        · exact List.mem_cons_of_mem _ (ih (hlines ▸ List.mem_cons_self) hc)
      · exact List.mem_cons_of_mem _ (ih (hlines ▸ List.mem_cons_of_mem _ hl) hc)

def AllBlank (text : List Char) : Prop := ∀ c ∈ text, isBlank c

theorem trimEnd_append (text : List Char) :
    ∃ blanks, AllBlank blanks ∧ text = trimEnd text ++ blanks := by
  induction text with
  | nil => exact ⟨[], List.forall_mem_nil _, rfl⟩
  | cons c text ih =>
    obtain ⟨blanks, hb, ht⟩ := ih
    rw [trimEnd]
    split
    · next hnil =>
      rw [hnil, List.nil_append] at ht
      subst ht
      split
      · next hc => exact ⟨c :: text, List.forall_mem_cons.mpr ⟨hc, hb⟩, rfl⟩
      · exact ⟨text, hb, rfl⟩
    · next d ds hcons =>
      rw [hcons] at ht
      exact ⟨blanks, hb, by rw [List.cons_append, ← ht]⟩

theorem trim_append (hb : AllBlank blanks) (text : List Char) :
    trim (blanks ++ text) = trim text := by
  rw [trim, trim, List.dropWhile_append_of_pos hb]

end Switchboard.Text
