import Flotilla.Text.Lowercase.Table
import Flotilla.Text.Quoted.Table

/-!
# Quoted Text

A text between quotes in which a reader can tell every character: quotes and backslashes are
escaped, the usual control characters have escapes of one letter, and every other character that
cannot be seen is written by the hexadecimal digits of its value.
-/

namespace Flotilla.Text

def isVisible (c : Char) : Bool :=
  let n := c.toNat
  if n < 0x80 then 0x20 ≤ n && n ≤ 0x7E
  else !inRanges attachedRanges n && !inRanges invisibleRanges n

/-- The characters that stand for a character between quotes. -/
def quotedChar (c : Char) : List Char :=
  if c = '"' then ['\\', '"']
  else if c = '\\' then ['\\', '\\']
  else if c = '\n' then ['\\', 'n']
  else if c = '\r' then ['\\', 'r']
  else if c = '\t' then ['\\', 't']
  else if c = '\x00' then ['\\', '0']
  else if isVisible c then [c]
  else ['\\', 'u', '\x7b'] ++ Nat.toDigits 16 c.toNat ++ ['\x7d']

def quoted (s : String) : String :=
  "\"" ++ String.ofList (s.toList.flatMap quotedChar) ++ "\""

end Flotilla.Text
