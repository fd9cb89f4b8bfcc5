/-!
# Lines of a Text

A line ends at a line feed, and one carriage return right before the line feed belongs to the
ending. A text that ends with a line feed has no further, empty line; a carriage return at the
very end of a text without a line feed stays in its line. Nothing else breaks a line.
-/

namespace Flotilla.Text

/-- The pieces between the occurrences of `sep`; there is one more piece than separators. -/
def cells (sep : Char) : List Char → List (List Char)
  | [] => [[]]
  | c :: rest =>
    if c = sep then [] :: cells sep rest
    else match cells sep rest with
      | [] => [[c]]
      | piece :: pieces => (c :: piece) :: pieces

/-- The pieces of a text between the occurrences of `sep`. -/
def split (sep : Char) (s : String) : List String :=
  (cells sep s.toList).map String.ofList

/-- A piece without one carriage return at its end. -/
def dropReturn (cs : List Char) : List Char :=
  if cs.getLast? = some '\r' then cs.dropLast else cs

/-- The lines of a list of characters: every piece that a line feed ended, without its carriage
return, and the last piece unless it is empty. -/
def lineChars (cs : List Char) : List (List Char) :=
  let pieces := cells '\n' cs
  pieces.dropLast.map dropReturn ++
    match pieces.getLast? with
    | none | some [] => []
    | some piece => [piece]

def lines (s : String) : List String :=
  (lineChars s.toList).map String.ofList

theorem cells_ne_nil (sep : Char) (cs : List Char) : cells sep cs ≠ [] := by
  cases cs with
  | nil => simp [cells]
  | cons c rest =>
    unfold cells
    split
    · simp
    · split <;> simp

end Flotilla.Text
