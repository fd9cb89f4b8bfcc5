import Flotilla.Text.Lines
import Flotilla.Text.Lowercase.Table
import Flotilla.Url.Domain.Replacement.Table

/-!
# Replaced Characters

A domain name may be given in many characters. Capital letters become small ones, characters that
differ from others in their form only become those, and some invisible ones are dropped. The
characters that are left stand for themselves.
-/

namespace Flotilla.Url.Domain

/-- The text that replaces a character, if the run covers it. -/
def ReplacementRun.text? (r : ReplacementRun) (n : Nat) : Option (List Char) :=
  if r.first ≤ n ∧ n ≤ r.last ∧ (n - r.first) % r.stride = 0 then
    (Text.cells ' ' r.texts.toList)[(n - r.first) / r.stride]?
  else none

/-- The characters that replace a character of a domain name, unless it may not be given. All of
ASCII may. -/
def replaced? (c : Char) : Option (List Char) :=
  let n := c.toNat
  if n < 0x80 then some [if 'A' ≤ c ∧ c ≤ 'Z' then Char.ofNat (n + 32) else c]
  else if !Text.inRanges admittedRanges n then none
  else if Text.inRanges droppedRanges n then some []
  else some ((replacementRuns.findSome? (·.text? n)).getD [c])

def isPlainLetter (c : Char) : Bool :=
  replaced? c = some [c]

end Flotilla.Url.Domain
