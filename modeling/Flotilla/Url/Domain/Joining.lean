import Flotilla.Text.Lowercase.Table
import Flotilla.Url.Domain.Joining.Table
import Flotilla.Url.Domain.Marks

/-!
# Joiners

Two characters without a form of their own: the joiner asks for the joined form of the letters
around it, the non-joiner prevents it. They may stand only where they change what is seen: after
the sign that takes the vowel from a consonant, and the non-joiner also between letters that would
be joined.
-/

namespace Flotilla.Url.Domain

/-- The character that prevents letters from being joined. -/
def nonJoiner : Char := '\u200c'

def joiner : Char := '\u200d'

def joinsForward (c : Char) : Bool :=
  Text.inRanges dualRanges c.toNat || Text.inRanges forwardRanges c.toNat

def joinsBackward (c : Char) : Bool :=
  Text.inRanges dualRanges c.toNat || Text.inRanges backwardRanges c.toNat

def isTransparent (c : Char) : Bool :=
  isNonspacing c || c.toNat = 0x1E94B

/-- Whether letters would be joined between the reversed text `before` and the text `after`. -/
def wouldJoin (before after : List Char) : Bool :=
  (before.dropWhile isTransparent).head?.any joinsForward &&
    (after.dropWhile isTransparent).head?.any joinsBackward

/-- Whether a character may stand between the reversed text `before` and the text `after`, as far
as it is a joiner or a non-joiner. -/
def mayStand (before after : List Char) (c : Char) : Bool :=
  if c = joiner then before.head?.any isVirama
  else if c = nonJoiner then before.head?.any isVirama || wouldJoin before after
  else true

/-- Whether all joiners and non-joiners may stand where they do; `before` is what was read before
the text, in reverse. -/
def joinersStand (before : List Char) : List Char → Bool
  | [] => true
  | c :: rest => mayStand before rest c && joinersStand (c :: before) rest

end Flotilla.Url.Domain
