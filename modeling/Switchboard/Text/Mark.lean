import Switchboard.Text.Mark.Table
import Switchboard.Text.Runs

namespace Switchboard.Text

def markRuns : Array Run := runsOf markTable

def combiningRuns : Array Run := runsOf combiningTable

def isMark (c : Char) : Bool := labelOf markRuns c == "m"

/-- The combining class of a character, zero for one that starts a sequence. -/
def combiningClass (c : Char) : Nat :=
  if c.toNat < 0x300 then 0 else ((labelOf combiningRuns c).toNat?).getD 0

/-- A virama joins its consonant to the next one. -/
def isVirama (c : Char) : Bool := combiningClass c == 9

end Switchboard.Text
