import Flotilla.Text.Lowercase.Table
import Flotilla.Url.Domain.Direction.Table
import Flotilla.Url.Domain.Marks

/-!
# Direction of Writing

Some scripts are written from right to left, their numbers from left to right. In a domain name
that holds any such character, every label has to be of one direction, from its first letter to
its last letter or digit, so that its characters are seen in an order that cannot be mistaken.
-/

namespace Flotilla.Url.Domain

/-- How a character is written. -/
inductive Direction where
  | left
  | right
  | arabicNumber
  | europeanNumber
  /-- As its neighbours are. -/
  | neutral
  /-- As the character to which it is attached. -/
  | attached
  deriving DecidableEq, Repr

namespace Direction

def ofAscii (c : Char) : Direction :=
  if c.isAlpha then left else if c.isDigit then europeanNumber else neutral

def ofChar (c : Char) : Direction :=
  let n := c.toNat
  if n < 0x80 then ofAscii c
  else if Text.inRanges rightRanges n then right
  else if Text.inRanges arabicNumberRanges n then arabicNumber
  else if Text.inRanges europeanNumberRanges n then europeanNumber
  else if Text.inRanges neutralRanges n then neutral
  else if isNonspacing c && !Text.inRanges leftMarkRanges n then attached
  else left

/-- Whether a character makes the direction of a domain name matter. -/
def matters (d : Direction) : Bool :=
  d = right || d = arabicNumber

/-- Whether a label from left to right may hold a character of the direction. -/
def fitsLeft (d : Direction) : Bool :=
  d = left || d = europeanNumber || d = neutral || d = attached

/-- Whether a label from right to left may hold a character of the direction. -/
def fitsRight (d : Direction) : Bool :=
  d != left

/-- Whether a label may end with a character of the direction. -/
def isFirm (d : Direction) : Bool :=
  d != neutral && d != attached

/-- Whether a label is of one direction. Marks at its end do not count, and numbers of both kinds
do not go together from right to left. -/
def isOneWay (letters : List Char) : Bool :=
  match letters.map ofChar with
  | [] => true
  | first :: rest =>
    let counted := (rest.reverse.dropWhile (· = attached)).reverse
    match first with
    | left => counted.all fitsLeft && counted.getLast?.all isFirm
    | right =>
      counted.all fitsRight && counted.getLast?.all isFirm &&
        !(counted.contains arabicNumber && counted.contains europeanNumber)
    | _ => false

end Direction

end Flotilla.Url.Domain
