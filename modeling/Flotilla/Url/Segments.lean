import Flotilla.Url.Basic
import Flotilla.Url.Percent

/-!
# Path Segments

How segments are appended to a path. Segments of one dot and of two dots have a meaning: the
former stands for the path so far, the latter takes the last segment away. Both are also known
with the dot in percent encoding. A segment that begins with the letter of a drive is never taken
away.

A segment that is given as a text is encoded, so that it stays one segment whatever it holds. The
texts of one dot and of two dots are passed over; tabs and line breaks are removed.
-/

namespace Flotilla.Url

/-! ## Drives -/

def isLetter (c : Char) : Bool :=
  ('a' ≤ c && c ≤ 'z') || ('A' ≤ c && c ≤ 'Z')

/-- Whether a text names a drive: a letter, and a colon or a vertical bar. -/
def isDrive : List Char → Bool
  | [letter, sign] => isLetter letter && (sign == ':' || sign == '|')
  | _ => false

/-- Whether a segment names a drive, perhaps with a backslash and more after it. -/
def beginsWithDrive (segment : String) : Bool :=
  isDrive (segment.toList.take 2) && (segment.toList.drop 2).head?.all (· == '\\')

def driveName (segment : String) : String :=
  String.ofList (segment.toList.take 1 ++ [':'])

/-! ## Placing segments -/

def shorten (path : List String) : List String :=
  if path.getLast?.any beginsWithDrive then path else path.dropLast

def dotForm (segment : String) : String :=
  Text.replace "%2E" "." (Text.replace "%2e" "." segment)

/-- The path after a segment that is written in percent encoding. A dot segment leaves an empty
one if it is the last of its path. -/
def placeSegment (path : List String) (segment : String) (isLast : Bool) : List String :=
  let open? := if isLast then [""] else []
  if dotForm segment = ".." then shorten path ++ open?
  else if dotForm segment = "." then path ++ open?
  else path ++ [segment]

/-- Whether a character is removed wherever it stands in a URL. -/
def isRemoved (c : Char) : Bool :=
  c == '\t' || c == '\n' || c == '\r'

def segmentText (special : Bool) (text : String) : String :=
  String.ofList (encode (keptInSegment special) (text.toList.filter (!isRemoved ·)))

/-- A path with a text appended as one segment. An empty path that consists of a slash is
replaced. -/
def appendSegment (special : Bool) (path : List String) (text : String) : List String :=
  if text = "." ∨ text = ".." then path
  else placeSegment (if path = [""] then [] else path) (segmentText special text) true

/-- A path without the empty segment at its end, unless it is the only one. -/
def dropEmptyLast (path : List String) : List String :=
  if 2 ≤ path.length ∧ path.getLast? = some "" then path.dropLast else path

/-- The URL with texts appended to its path, each as one segment. A path without structure stays
as it is. -/
def append (u : Url) (texts : List String) : Url :=
  match u.path with
  | .whole _ => u
  | .segments path =>
    { u with
      path := .segments (texts.foldl (appendSegment (isSpecial u.scheme)) (dropEmptyLast path)) }

end Flotilla.Url
