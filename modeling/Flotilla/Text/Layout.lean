/-!
# Layout of Text

Columns of a table are filled up with blanks to a width. A text that is too wide stays as it is.
-/

namespace Flotilla.Text

def repeated (n : Nat) (c : Char) : String :=
  String.ofList (List.replicate n c)

/-- A text filled up with blanks to the width of its column. -/
def column (width : Nat) (s : String) : String :=
  s ++ repeated (width - s.length) ' '

end Flotilla.Text
