import Flotilla.Text.Lines
import Flotilla.Url.Domain.Composition
import Flotilla.Url.Domain.Direction
import Flotilla.Url.Domain.Joining
import Flotilla.Url.Domain.Replacement
import Flotilla.Url.Punycode

/-!
# Domain Names

A domain name in the form in which it is looked up: in small letters, composed, and in ASCII. A
label that is not in ASCII is written by punycode after `xn--`. A label that comes with that
beginning has to be one that would be written so. The letters of every label, as they are read and
not as they are written, have to obey the rules about marks, joiners and directions.

The properties of characters are those of version 17 of the Unicode standard.
-/

namespace Flotilla.Url

open Domain

def isForbidden (c : Char) : Bool :=
  c.toNat ≤ 0x20 || c.toNat == 0x7F ||
    ['#', '%', '/', ':', '<', '>', '?', '@', '[', '\\', ']', '^', '|'].contains c

/-- A label of a domain name. -/
structure Label where
  letters : List Char
  /-- How the letters are written in ASCII. -/
  ascii : List Char
  deriving DecidableEq, Repr

namespace Label

def maxLength : Nat := 1000

def maxCodeLength : Nat := 2000

/-- Whether letters outside ASCII may make up a label. -/
def isSound (letters : List Char) : Bool :=
  letters.length ≤ maxLength && !letters.head?.any isMark && joinersStand [] letters

/-- The letters that punycode writes, if a label may be written so. -/
def decoded? (code : List Char) : Option (List Char) := do
  guard (code.length ≤ maxCodeLength)
  let letters ← Punycode.read? code
  guard (letters.any (0x80 ≤ ·.toNat) && letters.all fun c => isPlainLetter c && c != '.')
  guard (composed letters = letters && Punycode.write letters = code)
  return letters

/-- The label of a name that has been replaced and composed. -/
def read? (cs : List Char) : Option Label :=
  match cs with
  | 'x' :: 'n' :: '-' :: '-' :: code => do
    let letters ← decoded? code
    guard (!letters.any isForbidden && isSound letters)
    return ⟨letters, cs⟩
  | cs =>
    if cs.all (·.toNat < 0x80) then some ⟨cs, cs⟩
    else if isSound cs then some ⟨cs, "xn--".toList ++ Punycode.write cs⟩
    else none

/-- Whether a label holds a character that makes the direction matter. -/
def hasDirection (l : Label) : Bool :=
  l.letters.any fun c => (Direction.ofChar c).matters

end Label

/-- The labels of a domain name in ASCII, unless it is no domain name. -/
def domainLabels? (name : List Char) : Option (List (List Char)) := do
  let replaced ← name.mapM replaced?
  let cs := composed replaced.flatten
  guard (!cs.any isForbidden)
  let labels ← (Text.cells '.' cs).mapM Label.read?
  guard (!labels.any (·.hasDirection) || labels.all fun l => Direction.isOneWay l.letters)
  return labels.map (·.ascii)

end Flotilla.Url
