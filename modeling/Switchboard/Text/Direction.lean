import Switchboard.Text.Direction.Table
import Switchboard.Text.Runs

namespace Switchboard.Text

inductive Direction
  | left
  | right
  | europeanDigit
  | arabicDigit
  | mark
  | neutral
  | blank
  deriving DecidableEq

def directionRuns : Array Run := runsOf directionTable

def direction (c : Char) : Direction :=
  match (labelOf directionRuns c).toList with
  | ['l'] => .left
  | ['r'] => .right
  | ['e'] => .europeanDigit
  | ['a'] => .arabicDigit
  | ['m'] => .mark
  | ['o'] => .neutral
  | _ => .blank

/-- Characters that run from right to left, digits among them. None is in ASCII. -/
def runsLeftward (c : Char) : Bool :=
  0x80 ≤ c.toNat && [.right, .arabicDigit].contains (direction c)

def bareDirections (label : List Char) : List Direction :=
  ((label.map direction).reverse.dropWhile (· == .mark)).reverse

/-- A label whose parts cannot be mistaken: it has one direction, begins with a letter and ends in a
letter or digit of that direction. -/
def keepsDirection (label : List Char) : Bool :=
  let all := label.map direction
  let ending := (bareDirections label).getLast?
  match all with
  | [] => true
  | .right :: _ =>
    all.all (fun d => d != .left && d != .blank) &&
    [some .right, some .europeanDigit, some .arabicDigit].contains ending &&
    !(all.contains .europeanDigit && all.contains .arabicDigit)
  | .left :: _ =>
    all.all (fun d => !([.right, .arabicDigit, .blank].contains d)) &&
    [some .left, some .europeanDigit].contains ending
  | _ => false

end Switchboard.Text
