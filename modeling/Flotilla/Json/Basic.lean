/-!
# JSON Values

A JSON value as it was written: the members of an object keep their order and their repetitions,
so that a record that names a field twice can be refused. Numbers are kept apart by their form,
because only plain integers are ever read; a negative zero, a fraction or an exponent makes a
`real`. A string may be written with half of a surrogate pair and stands for no text then; such
a value can be passed over, but not read.
-/

namespace Flotilla

/-- A JSON value. -/
inductive Json where
  | null
  | bool (value : Bool)
  | int (value : Int)
  | real (text : String)
  | str (value : String)
  | arr (elements : List Json)
  | obj (members : List (String × Json))
  /-- A string that is no text, or an object in which a name is none. -/
  | unpaired
  deriving Inhabited

namespace Json

/-- Two names with their values as an object, and so on: members in the order given. -/
def object (members : List (String × Json)) : Json :=
  .obj members

def nat (n : Nat) : Json :=
  .int n

/-- A text, or null. -/
def strOrNull : Option String → Json
  | some s => .str s
  | none => .null

def strings (texts : List String) : Json :=
  .arr (texts.map .str)

end Json

end Flotilla
