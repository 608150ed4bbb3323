import Switchboard.Address.Punycode
import Switchboard.Text.Folding
import Switchboard.Text.Composition
import Switchboard.Text.Direction
import Switchboard.Text.Joining

/-!
Names of hosts in plain ASCII. A name is folded, and each of its labels that is not plain is written
in Punycode behind a marker.
-/

namespace Switchboard.Address

def splitAt (mark : Char → Bool) : List Char → List (List Char)
  | [] => [[]]
  | c :: cs =>
    if mark c then [] :: splitAt mark cs
    else match splitAt mark cs with
      | [] => [[c]]
      | piece :: pieces => (c :: piece) :: pieces

def isPlain (c : Char) : Bool := c.toNat < 0x80

def offName (c : Char) : Bool :=
  c.toNat ≤ 0x20 || ['\x7f', '%', '#', '/', ':', '<', '>', '?', '@', '[', '\\', ']', '^', '|'].contains c

def marker : List Char := ['x', 'n', '-', '-']

/-- A label that may be shown: no mark comes first, and joiners stand where they matter. -/
def isShowable (label : List Char) : Bool :=
  !label.head?.any Text.isMark && Text.joinersFit [] label

structure Label where
  shown : List Char
  plain : List Char

/-- Reads a folded label. One that is marked must stand for a label that has to be. -/
def Label.read (cs : List Char) : Option Label :=
  if marker.isPrefixOf cs then do
    let shown ← ofPunycode (cs.drop marker.length)
    if cs.all isPlain ∧ shown.all isPlain = false ∧ shown.all Text.isFolded ∧
        Text.composed shown = shown ∧ !shown.contains '.' ∧ isShowable shown then
      some ⟨shown, cs⟩
    else none
  else if cs.all isPlain then some ⟨cs, cs⟩
  else if isShowable cs then some ⟨cs, marker ++ punycode cs⟩
  else none

def plainName (cs : List Char) : Option (List Char) := do
  let folded ← Text.foldAll cs
  let labels ← (splitAt (· == '.') (Text.composed folded)).mapM Label.read
  let mixed := labels.any (·.shown.any Text.runsLeftward)
  let plain := List.intercalate ['.'] (labels.map (·.plain))
  if plain.any offName || (mixed && !labels.all fun l => Text.keepsDirection l.shown) then none
  else some plain

end Switchboard.Address
