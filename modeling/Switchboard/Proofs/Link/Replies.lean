import Mathlib.Data.List.Basic
import Switchboard.Proofs.Link.Life
import Switchboard.Proofs.Message.Frame

namespace Switchboard.Link

open Message (Id Response readFrame)

/-- What a reply has to say to its call. -/
def verdictOf (r : Response) : Outcome :=
  if r.success then .ok r.result else .error (.application r.error)

def Pending.settlement? (p : Pending) (r : Response) : Option Effect :=
  (p.caller? r.id).map fun c => .settle ⟨c, verdictOf r⟩

def Pending.without (p : Pending) (rs : List Response) : Pending :=
  { p with waiting := p.waiting.filter fun w => rs.all fun r => w.1 != r.id }

def frameOf (rs : List Response) : String := "\n".intercalate (rs.map Response.write)

def arrivals (E : Epoch) (frames : List (Nat × List Response)) : List (Nat × Moment) :=
  frames.map fun f => (f.1, .input (.transport E (.message (frameOf f.2))))

/-- A reply that reads back from its text. -/
def Legible (r : Response) : Prop := r.Regular ∧ r.result.depth ≤ 126

variable {p : Pending} {r : Response} {rs rs' : List Response}

theorem entryOutcome_ok (r : Response) : entryOutcome (.ok r) = verdictOf r := by
  cases h : r.success <;> simp [entryOutcome, verdictOf, Response.outcome, h]

/-- A frame of replies reads back reply by reply. -/
theorem readFrame_frameOf (hrs : ∀ r ∈ rs, Legible r) : readFrame (frameOf rs) = rs.map .ok := by
  have hlines := Message.readFrame_lines rs (fun r hr => (hrs r hr).1) []
  have hnone : readFrame ("\n".intercalate []) = [] :=
    Message.readFrameChars_blank (List.forall_mem_nil _)
  rw [List.append_nil, hnone, List.append_nil] at hlines
  rw [frameOf, hlines]
  exact List.map_congr_left fun r hr => Response.envelope_response (hrs r hr).1 (hrs r hr).2

theorem settleEntry_reply (p : Pending) (r : Response) :
    (settleEntry p (.ok r)).1 = p.erase r.id ∧
      seen (settleEntry p (.ok r)).2 = (p.settlement? r).toList := by
  obtain ⟨hp, hs⟩ := settleEntry_some (p := p) (e := .ok r) rfl
  rw [entryOutcome_ok] at hs
  exact ⟨hp, hs⟩

theorem settleEntries_append (p : Pending) (es fs : List Entry) :
    settleEntries p (es ++ fs) =
      ((settleEntries (settleEntries p es).1 fs).1,
        (settleEntries p es).2 ++ (settleEntries (settleEntries p es).1 fs).2) := by
  induction es generalizing p with
  | nil => rfl
  | cons e es ih => simp only [List.cons_append, settleEntries, ih, List.append_assoc]

theorem Pending.without_cons (p : Pending) (r : Response) (rs : List Response) :
    p.without (r :: rs) = (p.erase r.id).without rs := by
  simp only [Pending.without, Pending.erase, List.all_cons, List.filter_filter]
  congr 2
  funext w
  exact Bool.and_comm _ _

/-- Which calls are left does not depend on the order of the replies. -/
theorem Pending.without_perm (h : rs.Perm rs') : p.without rs = p.without rs' := by
  unfold Pending.without
  congr 2
  funext w
  exact h.all_eq

/-- Each reply settles the call it would have settled alone. -/
theorem settleEntries_replies (hids : (rs.map (·.id)).Nodup) :
    (settleEntries p (rs.map .ok)).1 = p.without rs ∧
      seen (settleEntries p (rs.map .ok)).2 = rs.filterMap p.settlement? := by
  induction rs generalizing p with
  | nil =>
    refine ⟨?_, rfl⟩
    have hall : (p.waiting.filter fun w => ([] : List Response).all fun r => w.1 != r.id) =
        p.waiting := List.filter_eq_self.mpr fun _ _ => rfl
    rw [Pending.without, hall]
    rfl
  | cons r rs ih =>
    rw [List.map_cons, List.nodup_cons] at hids
    obtain ⟨hnot, hids⟩ := hids
    obtain ⟨hfirst, hseen⟩ := settleEntry_reply p r
    obtain ⟨hp, hs⟩ := ih (p := p.erase r.id) hids
    have hothers : rs.filterMap (p.erase r.id).settlement? = rs.filterMap p.settlement? := by
      refine List.filterMap_congr fun r' hr' => ?_
      have hne : r'.id ≠ r.id := fun he => hnot (he ▸ List.mem_map_of_mem hr')
      rw [Pending.settlement?, Pending.caller?_erase _ hne, Pending.settlement?]
    simp only [List.map_cons, settleEntries, seen_append, hfirst, hseen, hp, hs, hothers]
    refine ⟨(p.without_cons r rs).symm, ?_⟩
    cases h : p.settlement? r <;> simp [h]

/-- A frame of replies does what its replies do, whatever else has happened to the link. -/
theorem react_frame (l : Link) (now : Nat) (hrs : ∀ r ∈ rs, Legible r) :
    let all := settleEntries l.pending (rs.map .ok)
    let after := l.react now (.input (.transport l.epoch (.message (frameOf rs))))
    after.1 = { l with pending := all.1 } ∧ seen after.2 = seen all.2 := by
  simp only [react, handle, ↓reduceIte, onEvent, onMessage, readFrame_frameOf hrs, seen_append,
    seen_verbosely, List.nil_append, true_and]

/-- Frames of replies do what all their replies do in a row. -/
theorem run_arrivals (l : Link) (frames : List (Nat × List Response))
    (h : ∀ r ∈ frames.flatMap (·.2), Legible r) :
    let all := settleEntries l.pending ((frames.flatMap (·.2)).map .ok)
    let after := l.run (arrivals l.epoch frames)
    after.1 = { l with pending := all.1 } ∧ seen after.2 = seen all.2 := by
  induction frames generalizing l with
  | nil => exact ⟨rfl, rfl⟩
  | cons f frames ih =>
    obtain ⟨now, rs⟩ := f
    have hrs : ∀ r ∈ rs, Legible r := fun r hr => h r (by simp [hr])
    obtain ⟨hl, hs⟩ := l.react_frame now hrs
    obtain ⟨hl', hs'⟩ := ih { l with pending := (settleEntries l.pending (rs.map .ok)).1 }
      fun r hr => h r (List.mem_append_right rs hr)
    simp only [List.flatMap_cons, List.map_append, settleEntries_append, seen_append]
    simp only [arrivals, List.map_cons, run, seen_append, hl, hs]
    exact ⟨hl', congrArg _ hs'⟩

/-- Replies that name a call each are told to the calls that wait under their ids, in whatever order
and however grouped into frames they arrive: the link forgets those calls and is otherwise as it
was, and nothing else is seen of it. -/
theorem replies_in_any_order (config : Config) (ms : List (Nat × Moment)) (rs : List Response)
    (hids : (rs.map (·.id)).Nodup) (hrs : ∀ r ∈ rs, r.Regular ∧ r.result.depth ≤ 126)
    (frames : List (Nat × List Response)) (hframes : (frames.flatMap (·.2)).Perm rs) :
    let l := (live config ms).1
    let after := l.run (arrivals l.epoch frames)
    after.1 = { l with pending := l.pending.without rs } ∧
    seen after.2 = (frames.flatMap (·.2)).filterMap l.pending.settlement? := by
  intro l after
  obtain ⟨hl, hs⟩ := l.run_arrivals frames fun r hr => hrs r (hframes.mem_iff.mp hr)
  obtain ⟨hp, hsettled⟩ := settleEntries_replies (p := l.pending)
    ((hframes.map (·.id)).nodup_iff.mpr hids)
  rw [hp, Pending.without_perm hframes] at hl
  exact ⟨hl, hs.trans hsettled⟩

def answeredCalls : List (Nat × Moment) :=
  [(0, .input (.transport 1 .opened)), (1, .input (.request ⟨"GET", "a", ""⟩ 4)),
    (1, .input (.request ⟨"GET", "b", ""⟩ 5)), (1, .input (.request ⟨"GET", "c", ""⟩ 6))]

def someReplies : List Response :=
  [.failed 1 "gone", .succeeded 3 (.string "c"), .succeeded 9 .null]

def reversedReplies : List (Nat × List Response) :=
  [(2, []), (3, [.succeeded 9 .null, .succeeded 3 (.string "c")]), (4, [.failed 1 "gone"])]

/-- Two replies in reverse order, in two frames, with one in between that names no call. -/
theorem replies_in_reverse_order :
    let l := (live ⟨"ws://hub", 1000, false⟩ answeredCalls).1
    let after := l.run (arrivals l.epoch reversedReplies)
    l.phase = .opened ∧ after.1 = { l with pending := ⟨3, [(2, 5)]⟩ } ∧
    seen after.2 =
      [.settle ⟨6, .ok (.string "c")⟩, .settle ⟨4, .error (.application "gone")⟩] := by
  have hids : (someReplies.map (·.id)).Nodup := by decide
  have hrs : ∀ r ∈ someReplies, r.Regular ∧ r.result.depth ≤ 126 := by
    intro r hr
    simp only [someReplies, List.mem_cons, List.not_mem_nil, or_false] at hr
    rcases hr with rfl | rfl | rfl
    · exact ⟨⟨by decide, .null⟩, Nat.zero_le _⟩
    · exact ⟨⟨by decide, .string _⟩, Nat.zero_le _⟩
    · exact ⟨⟨by decide, .null⟩, Nat.zero_le _⟩
  have h := replies_in_any_order ⟨"ws://hub", 1000, false⟩ answeredCalls someReplies hids hrs
    reversedReplies (List.reverse_perm someReplies)
  exact ⟨rfl, h⟩

end Switchboard.Link
