import Switchboard.Text.Joining.Table
import Switchboard.Text.Mark

/-!
Joiners: two characters without a glyph that ask for their neighbours to be joined or kept apart.
They may only stand where they make a difference.
-/

namespace Switchboard.Text

def joiningRuns : Array Run := runsOf joiningTable

def joinsForward (c : Char) : Bool := ["b", "l"].contains (labelOf joiningRuns c)

def joinsBackward (c : Char) : Bool := ["b", "r"].contains (labelOf joiningRuns c)

def isTransparent (c : Char) : Bool := labelOf joiningRuns c == "t"

/-- Whether a joiner may stand between what is before it, nearest first, and what is after it. Other
characters may stand anywhere. -/
def joinerFits (c : Char) (before after : List Char) : Bool :=
  let afterVirama := before.head?.any isVirama
  if c = '\u200d' then afterVirama
  else if c = '\u200c' then
    afterVirama ||
      ((before.dropWhile isTransparent).head?.any joinsForward &&
        (after.dropWhile isTransparent).head?.any joinsBackward)
  else true

def joinersFit (before : List Char) : List Char → Bool
  | [] => true
  | c :: cs => joinerFits c before cs && joinersFit (c :: before) cs

end Switchboard.Text
