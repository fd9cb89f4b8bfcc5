import Flotilla.Text.Layout
import Flotilla.Text.Search

/-!
# Coloured Text

Text is coloured by sequences of control characters around it. A text that ends all colours
itself is coloured again right after that. Where colours are off, no text changes.
-/

namespace Flotilla.Terminal

/-- A bright colour. -/
inductive Ink where
  | red
  | green
  | yellow
  | blue
  | cyan
  | white
  deriving DecidableEq, Repr

def Ink.code : Ink → String
  | red => "91"
  | green => "92"
  | yellow => "93"
  | blue => "94"
  | cyan => "96"
  | white => "97"

def plainAgain : String := "\x1b[0m"

/-- Whether colours are on. -/
structure Palette where
  colours : Bool
  deriving DecidableEq, Repr

namespace Palette

/-- Colours are on if the variable that forces them is set to anything but zero: texts are not
printed to a screen. -/
def ofVariables (lookup : String → Option String) : Palette :=
  ⟨(lookup "CLICOLOR_FORCE").any (· ≠ "0")⟩

/-- The text of a column between the sequence of some codes and the one that ends all colours. -/
def wrap (p : Palette) (codes : String) (width : Nat) (text : String) : String :=
  if p.colours then
    let start := "\x1b[" ++ codes ++ "m"
    start ++ Text.column width (Text.replace plainAgain (plainAgain ++ start) text) ++ plainAgain
  else Text.column width text

def paint (p : Palette) (ink : Ink) (text : String) : String :=
  p.wrap ink.code 0 text

def bold (p : Palette) (ink : Ink) (text : String) : String :=
  p.wrap ("1;" ++ ink.code) 0 text

def paintColumn (p : Palette) (ink : Ink) (width : Nat) (text : String) : String :=
  p.wrap ink.code width text

def title (p : Palette) (width : Nat) (text : String) : String :=
  p.wrap ("1;" ++ Ink.white.code) width text

end Palette

end Flotilla.Terminal
