namespace Switchboard.Text

def hexNumber (s : String) : Nat :=
  s.toList.foldl (fun n c =>
    if '0' ≤ c ∧ c ≤ '9' then n * 16 + (c.toNat - 0x30)
    else if 'a' ≤ c ∧ c ≤ 'f' then n * 16 + (c.toNat - 0x57)
    else n) 0

/-- A run: its first code point and the label of its characters. It ends where the next begins. -/
structure Run where
  start : Nat
  label : String
  deriving Inhabited

/-- A word is a start, a dot and a label. -/
def Run.ofWord (word : String) : Option Run :=
  match word.splitOn "." with
  | [start, label] => some ⟨hexNumber start, label⟩
  | _ => none

def runsOf (table : String) : Array Run :=
  ((table.splitOn "\n").flatMap (·.splitOn " ")).filterMap Run.ofWord |>.toArray

def lastRun (runs : Array Run) (n low high : Nat) : Option Run :=
  if low < high then
    let middle := (low + high) / 2
    match runs[middle]? with
    | none => none
    | some run =>
      if run.start ≤ n then (lastRun runs n (middle + 1) high) <|> some run
      else lastRun runs n low middle
  else none
termination_by high - low

def runOf (runs : Array Run) (c : Char) : Option Run := lastRun runs c.toNat 0 runs.size

def labelOf (runs : Array Run) (c : Char) : String :=
  match runOf runs c with
  | some run => run.label
  | none => ""

end Switchboard.Text
