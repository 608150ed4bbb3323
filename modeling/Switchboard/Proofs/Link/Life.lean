import Switchboard.Proofs.Link.Sound

namespace Switchboard.Link

structure Turn where
  before : Link
  now : Nat
  moment : Moment
  after : Link

def turns (l : Link) : List (Nat × Moment) → List Turn
  | [] => []
  | (now, m) :: rest =>
    let l' := (l.react now m).1
    ⟨l, now, m, l'⟩ :: turns l' rest

def live (config : Config) (ms : List (Nat × Moment)) : Reaction :=
  let (l, first) := start config
  let (l, others) := l.run ms
  (l, first ++ others)

/-- The turns of a link since its start. -/
def past (config : Config) (ms : List (Nat × Moment)) : List Turn := turns (start config).1 ms

theorem run_append (l : Link) (ms ms' : List (Nat × Moment)) :
    l.run (ms ++ ms') =
      (((l.run ms).1.run ms').1, (l.run ms).2 ++ ((l.run ms).1.run ms').2) := by
  induction ms generalizing l with
  | nil => rfl
  | cons m ms ih => simp only [List.cons_append, run, ih, List.append_assoc]

theorem turns_append (l : Link) (ms ms' : List (Nat × Moment)) :
    l.turns (ms ++ ms') = l.turns ms ++ (l.run ms).1.turns ms' := by
  induction ms generalizing l with
  | nil => rfl
  | cons m ms ih => simp only [List.cons_append, turns, run, ih]

/-- A life can be cut anywhere: what follows is a run of the state it has come to. -/
theorem live_append (config : Config) (ms ms' : List (Nat × Moment)) :
    live config (ms ++ ms') =
      (((live config ms).1.run ms').1, (live config ms).2 ++ ((live config ms).1.run ms').2) := by
  simp only [live, run_append, List.append_assoc]

theorem past_append (config : Config) (ms ms' : List (Nat × Moment)) :
    past config (ms ++ ms') = past config ms ++ (live config ms).1.turns ms' :=
  turns_append _ ms ms'

theorem run_sound {l : Link} (hs : l.Sound) (ms : List (Nat × Moment)) : (l.run ms).1.Sound := by
  induction ms generalizing l with
  | nil => exact hs
  | cons m ms ih => exact ih ((l.react_move m.1 m.2).sound hs)

theorem live_sound (config : Config) (ms : List (Nat × Moment)) : (live config ms).1.Sound :=
  run_sound (start_sound config) ms

/-- What holds of a sound link now and is kept by every move holds after any moments. -/
theorem run_induction {motive : List Turn → Link → List Effect → Prop}
    (hmove : ∀ {ts l es now m l' fs}, l.Sound → Move l now m l' fs → motive ts l es →
      motive (ts ++ [⟨l, now, m, l'⟩]) l' (es ++ fs))
    (ms : List (Nat × Moment)) {ts : List Turn} {l : Link} {es : List Effect}
    (hs : l.Sound) (h : motive ts l es) :
    motive (ts ++ l.turns ms) (l.run ms).1 (es ++ seen (l.run ms).2) := by
  induction ms generalizing ts l es with
  | nil => simpa [turns, run] using h
  | cons m ms ih =>
    have hv := l.react_move m.1 m.2
    have hm := ih (hv.sound hs) (hmove hs hv h)
    simpa only [turns, run, seen_append, List.append_assoc, List.singleton_append] using hm

/-- What holds at the start and is kept by every move holds at all times. -/
theorem live_induction (config : Config) {motive : List Turn → Link → List Effect → Prop}
    (hstart : motive [] (start config).1 [.connect 1 config.url])
    (hmove : ∀ {ts l es now m l' fs}, l.Sound → Move l now m l' fs → motive ts l es →
      motive (ts ++ [⟨l, now, m, l'⟩]) l' (es ++ fs))
    (ms : List (Nat × Moment)) :
    motive (past config ms) (live config ms).1 (seen (live config ms).2) :=
  run_induction hmove ms (start_sound config) hstart

end Switchboard.Link
