import Flotilla.Text.Lowercase.Table
import Flotilla.Url.Domain.Marks.Table

/-!
# Marks

Characters that attach to the character before them. A mark of a class other than zero attaches
in a place of its own, so that marks of different classes may change places; marks of the same
class may not.
-/

namespace Flotilla.Url.Domain

/-- Whether a character is a mark that takes no room of its own. -/
def isNonspacing (c : Char) : Bool :=
  Text.inRanges nonspacingRanges c.toNat

def isMark (c : Char) : Bool :=
  isNonspacing c || Text.inRanges spacingRanges c.toNat

/-- The class of a mark; zero if it has none, or if the character is no mark. -/
def combiningClass (c : Char) : Nat :=
  ((classRuns.find? fun r => r.first ≤ c.toNat && c.toNat ≤ r.last).map (·.value)).getD 0

/-- Whether a character is the sign that takes the vowel from a consonant. -/
def isVirama (c : Char) : Bool :=
  combiningClass c = 9

end Flotilla.Url.Domain
