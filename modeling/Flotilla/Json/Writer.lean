import Flotilla.Json.Basic

/-!
# Writing JSON Text

Compact text without any blanks, and indented text with two blanks per level and one member or
element per line. In strings the quote, the backslash and the control characters are escaped,
the latter by a letter where there is one; everything else is written as it is.
-/

namespace Flotilla.Json

private def hexDigit (n : Nat) : Char :=
  if n < 10 then Char.ofNat ('0'.toNat + n) else Char.ofNat ('a'.toNat + n - 10)

/-- The characters that stand for `c` inside a string. -/
def escapeChar (c : Char) : List Char :=
  if c = '"' then ['\\', '"']
  else if c = '\\' then ['\\', '\\']
  else if c = '\n' then ['\\', 'n']
  else if c = '\r' then ['\\', 'r']
  else if c = '\t' then ['\\', 't']
  else if c = '\x08' then ['\\', 'b']
  else if c = '\x0c' then ['\\', 'f']
  else if c.toNat < 0x20 then
    ['\\', 'u', '0', '0', hexDigit (c.toNat / 16), hexDigit (c.toNat % 16)]
  else [c]

def quote (s : String) : String :=
  "\"" ++ String.ofList (s.toList.flatMap escapeChar) ++ "\""

def unpairedText : String :=
  "\"\\ud800\""

mutual

def write : Json → String
  | .null => "null"
  | .bool true => "true"
  | .bool false => "false"
  | .int i => toString i
  | .real text => text
  | .str s => quote s
  | .arr elements => "[" ++ writeElements "" elements ++ "]"
  | .obj members => "\x7b" ++ writeMembers "" members ++ "\x7d"
  | .unpaired => unpairedText

/-- The elements of an array, with `sep` before the first one. -/
def writeElements (sep : String) : List Json → String
  | [] => ""
  | v :: rest => sep ++ write v ++ writeElements "," rest

/-- The members of an object, with `sep` before the first one. -/
def writeMembers (sep : String) : List (String × Json) → String
  | [] => ""
  | (name, v) :: rest => sep ++ quote name ++ ":" ++ write v ++ writeMembers "," rest

end

/-- A line break followed by two blanks for each level. -/
def lineBreak (level : Nat) : String :=
  "\n" ++ String.ofList (List.replicate (2 * level) ' ')

mutual

/-- A value as indented text, from a level on. -/
def indent (level : Nat) : Json → String
  | .arr [] => "[]"
  | .arr (v :: rest) =>
    "[" ++ indentElements (level + 1) "" (v :: rest) ++ lineBreak level ++ "]"
  | .obj [] => "\x7b\x7d"
  | .obj (m :: rest) =>
    "\x7b" ++ indentMembers (level + 1) "" (m :: rest) ++ lineBreak level ++ "\x7d"
  | .null => "null"
  | .bool true => "true"
  | .bool false => "false"
  | .int i => toString i
  | .real text => text
  | .str s => quote s
  | .unpaired => unpairedText

/-- The elements of an array on lines of their own, with `sep` before the first one. -/
def indentElements (level : Nat) (sep : String) : List Json → String
  | [] => ""
  | v :: rest =>
    sep ++ lineBreak level ++ indent level v ++ indentElements level "," rest

/-- The members of an object on lines of their own, with `sep` before the first one. -/
def indentMembers (level : Nat) (sep : String) : List (String × Json) → String
  | [] => ""
  | (name, v) :: rest =>
    sep ++ lineBreak level ++ quote name ++ ": " ++ indent level v ++
      indentMembers level "," rest

end

def pretty (v : Json) : String :=
  indent 0 v

end Flotilla.Json
