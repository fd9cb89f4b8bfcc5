import Flotilla.Url.Domain.Composition.Table
import Flotilla.Url.Domain.Marks

/-!
# Composed Text

Many texts look the same although their characters differ: a letter with an accent is one
character or two, and accents in different places may come in any order. Of all of them one is
chosen: the characters are taken apart, the marks are ordered by their classes, and then every
character is put together with those after it as far as they go.
-/

namespace Flotilla.Url.Domain

/-! ## Syllables -/

/-- The first leading consonant of the Korean script. -/
def firstLead : Nat := 0x1100

def firstVowel : Nat := 0x1161

/-- The character before the first trailing consonant of the Korean script. -/
def beforeTrail : Nat := 0x11A7

/-- The first syllable of the Korean script. Syllables are in the order of their leading
consonants, then of their vowels, then of their trailing consonants, none at first. -/
def firstSyllable : Nat := 0xAC00

/-- The number of syllables with the same leading consonant and the same vowel. -/
def perVowel : Nat := 28

/-- The number of syllables with the same leading consonant. -/
def perLead : Nat := 21 * perVowel

def syllableCount : Nat := 19 * perLead

/-- The two parts of a syllable: what stands before its trailing consonant and that consonant, or
its leading consonant and its vowel. -/
def syllableParts? (n : Nat) : Option (Nat × Nat) :=
  if n < firstSyllable ∨ firstSyllable + syllableCount ≤ n then none
  else
    let index := n - firstSyllable
    let trail := index % perVowel
    if trail = 0 then
      some (firstLead + index / perLead, firstVowel + index % perLead / perVowel)
    else some (n - trail, beforeTrail + trail)

def syllable? (a b : Nat) : Option Nat :=
  if firstLead ≤ a ∧ a < firstLead + 19 ∧ firstVowel ≤ b ∧ b < firstVowel + 21 then
    some (firstSyllable + (a - firstLead) * perLead + (b - firstVowel) * perVowel)
  else if firstSyllable ≤ a ∧ a < firstSyllable + syllableCount ∧
      (a - firstSyllable) % perVowel = 0 ∧ beforeTrail < b ∧ b < beforeTrail + perVowel then
    some (a + (b - beforeTrail))
  else none

/-! ## Taking apart -/

/-- The two characters that a character is the same as. -/
def parts? (c : Char) : Option (Char × Char) :=
  let listed := (composites.find? (·.whole = c.toNat)).map fun x => (x.first, x.second)
  (syllableParts? c.toNat <|> listed).map fun (a, b) => (Char.ofNat a, Char.ofNat b)

/-- A character taken apart, and its first part as well, for a number of times. The second part is
never the same as two others. -/
def takeApart : Nat → Char → List Char
  | 0, c => [c]
  | times + 1, c =>
    match parts? c with
    | none => [c]
    | some (first, second) => takeApart times first ++ [second]

/-- Text taken apart. No character has more than three marks in it. -/
def decompose (cs : List Char) : List Char :=
  cs.flatMap (takeApart 3)

/-! ## Ordering -/

/-- A character before others. A mark goes past marks of lower classes. -/
def placeMark (c : Char) : List Char → List Char
  | [] => [c]
  | d :: rest =>
    if 0 < combiningClass d ∧ combiningClass d < combiningClass c then d :: placeMark c rest
    else c :: d :: rest

/-- Text in which the marks after a character are ordered by their classes. -/
def orderMarks (cs : List Char) : List Char :=
  cs.foldr placeMark []

/-! ## Putting together -/

def whole? (a b : Char) : Option Char :=
  let listed :=
    (composites.find? fun x => x.first = a.toNat && x.second = b.toNat).map (·.whole)
  (syllable? a.toNat b.toNat <|> listed).map Char.ofNat

/-- Put the characters that follow `base` together with it. In between stand the marks that could
not be, in reverse; the next one can be only if its class is higher than theirs. -/
def composeAfter (base : Char) (between : List Char) : List Char → List Char
  | [] => base :: between.reverse
  | c :: rest =>
    -- A mark of the same class stands in the way of this one.
    let isNear := between.head?.all fun d => combiningClass d < combiningClass c
    match if isNear then whole? base c else none with
    | some whole => composeAfter whole between rest
    | none =>
      -- The next character that is no mark is a base of its own.
      if combiningClass c = 0 then base :: between.reverse ++ composeAfter c [] rest
      else composeAfter base (c :: between) rest

/-- Put the characters of a text together. Marks at its beginning have nothing to go with. -/
def compose : List Char → List Char
  | [] => []
  | c :: rest => if combiningClass c = 0 then composeAfter c [] rest else c :: compose rest

/-- The text that is chosen of all that look the same. -/
def composed (cs : List Char) : List Char :=
  compose (orderMarks (decompose cs))

end Flotilla.Url.Domain
