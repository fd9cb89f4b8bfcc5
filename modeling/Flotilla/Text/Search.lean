/-!
# Searching and Replacing

Whether one text occurs in another, and the replacement of every occurrence from left to right.
Occurrences that are replaced never overlap, and inserted text is not searched again.
-/

namespace Flotilla.Text

/-- Whether `needle` occurs somewhere in a list of characters. -/
def occursIn (needle : List Char) : List Char → Bool
  | [] => needle.isEmpty
  | c :: rest => needle.isPrefixOf (c :: rest) || occursIn needle rest

/-- Whether `needle` occurs somewhere in `hay`. -/
def contains (hay needle : String) : Bool :=
  occursIn needle.toList hay.toList

/-- Replace every occurrence of `pattern` while reading from left to right. The first argument
counts the characters of an occurrence that are still to be passed over. -/
def replaceChars (pattern value : List Char) : Nat → List Char → List Char
  | _, [] => []
  | skip + 1, _ :: rest => replaceChars pattern value skip rest
  | 0, c :: rest =>
    if pattern.isPrefixOf (c :: rest) then
      value ++ replaceChars pattern value (pattern.length - 1) rest
    else c :: replaceChars pattern value 0 rest

/-- The text with every occurrence of a non-empty `pattern` replaced by `value`. -/
def replace (pattern value s : String) : String :=
  String.ofList (replaceChars pattern.toList value.toList 0 s.toList)

/-- The texts one after the other with `sep` between neighbours. -/
def join (sep : String) : List String → String
  | [] => ""
  | [s] => s
  | s :: t :: rest => s ++ sep ++ join sep (t :: rest)

/-- The text without its leading occurrences of `c`. -/
def dropLeading (c : Char) (s : String) : String :=
  String.ofList (s.toList.dropWhile (· == c))

/-- The text without its trailing occurrences of `c`. -/
def dropTrailing (c : Char) (s : String) : String :=
  String.ofList (s.toList.reverse.dropWhile (· == c)).reverse

/-- The first `n` characters of a text. -/
def first (n : Nat) (s : String) : String :=
  String.ofList (s.toList.take n)

end Flotilla.Text
