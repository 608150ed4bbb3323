import Switchboard.Proofs.Message.Line

namespace Switchboard.Message

open Json
open Text (AllBlank)

/-- How a stream of values ends: at the end of the frame, at a fault, or with a value lost. -/
inductive Ending
  | clear
  | broken
  | lost
  deriving DecidableEq

set_option linter.unusedVariables false in
def ending (frame : List Char) : Ending :=
  match hs : skipSpace frame with
  | [] => .clear
  | input =>
    match h : (value maxDepth).run input with
    | .error _ => .broken
    | .ok (v, rest) => if opensDelimited input || endsScalar rest then ending rest else .lost
termination_by frame.length
decreasing_by
  have := (value maxDepth).consumes h
  have := skipSpace_length frame
  rw [hs] at this
  omega

variable {frame text rest : List Char} {v : Value}

theorem ending_blank (h : skipSpace frame = []) : ending frame = .clear := by
  rw [ending]
  split <;> simp_all

theorem ending_fault {f : Fault} (hs : skipSpace frame = text) (hne : text ≠ [])
    (hv : (value maxDepth).run text = .error f) : ending frame = .broken := by
  subst hs
  rw [ending]
  split
  · contradiction
  · split <;> simp_all

/-- Behind a value that shows its end the stream goes on, and behind another one only if something
ends it. -/
theorem ending_cons {c : Char} (hs : skipSpace frame = c :: text)
    (hv : (value maxDepth).run (c :: text) = .ok (v, rest)) :
    ending frame =
      if opensDelimited (c :: text) || endsScalar rest then ending rest else .lost := by
  rw [ending]
  split
  · simp_all
  · split <;> simp_all

/-- What holds of frames without a value and of those whose first value cannot be read, and of a
frame when it holds behind the first value, holds of every frame. -/
theorem frame_induction {motive : List Char → Prop}
    (blank : ∀ {frame}, skipSpace frame = [] → motive frame)
    (fault : ∀ {frame c text f}, skipSpace frame = c :: text →
      (value maxDepth).run (c :: text) = .error f → motive frame)
    (value : ∀ {frame c text v rest}, skipSpace frame = c :: text →
      (value maxDepth).run (c :: text) = .ok (v, rest) → motive rest → motive frame)
    (frame : List Char) : motive frame := by
  induction hlen : frame.length using Nat.strongRecOn generalizing frame with
  | ind n ih =>
    cases hs : skipSpace frame with
    | nil => exact blank hs
    | cons c text =>
      cases hv : (Json.value maxDepth).run (c :: text) with
      | error f => exact fault hs hv
      | ok p =>
        obtain ⟨v, rest⟩ := p
        have hlt := (Json.value maxDepth).consumes hv
        have hle := skipSpace_length frame
        rw [hs] at hle
        exact value hs hv (ih rest.length (by omega) rest rfl)

end Switchboard.Message
