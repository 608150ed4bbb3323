import Switchboard.Text.Folding.Table
import Switchboard.Text.Runs

/-!
Folding: two names are the same if they fold to the same text. Case, width and the like do not
count.
-/

namespace Switchboard.Text

def foldingRuns : Array Run := runsOf foldingTable

def foldBy (run : Run) (c : Char) : Option (List Char) :=
  let place := c.toNat - run.start
  match run.label.toList with
  | ['v'] => some [c]
  | ['p'] => some [if place % 2 = 0 then Char.ofNat (c.toNat + 1) else c]
  | 's' :: code => some [Char.ofNat (hexNumber (String.ofList code) + place)]
  | ['m'] => some []
  | 'm' :: codes =>
    some (((String.ofList codes).splitOn ",").map fun code => Char.ofNat (hexNumber code))
  | _ => none

/-- What a character folds to. Capitals of ASCII fold to small letters; some characters beyond ASCII
fold to nothing, and some cannot be part of a name. -/
def fold (c : Char) : Option (List Char) :=
  if c.toNat < 0x80 then some [if 'A' ≤ c ∧ c ≤ 'Z' then Char.ofNat (c.toNat + 0x20) else c]
  else (runOf foldingRuns c).bind (foldBy · c)

def foldAll (cs : List Char) : Option (List Char) := (cs.mapM fold).map List.flatten

def isFolded (c : Char) : Bool := fold c == some [c]

end Switchboard.Text
