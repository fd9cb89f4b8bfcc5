import Flotilla.Json.Record

/-!
# Shapes

What a value has to look like, as data, and the check that it does. A shape matters where most of
a large value is of no interest, but the value is refused as a whole if a part of it is wrong.

Every field of a record may be null, and the object form may leave it out; the positional form has
all fields. As in all records, unknown members are passed over and a known one is not repeated.
-/

namespace Flotilla.Json

/-- What a value has to look like. -/
inductive Shape where
  /-- Whatever fits the grammar. -/
  | anything
  | text
  | integer
  | truth
  /-- One of some bare cases. -/
  | word (words : List String)
  /-- An array of values that look alike. -/
  | list (element : Shape)
  /-- An object with any names, whose values look alike. -/
  | map (value : Shape)
  | orNull (value : Shape)
  | record (fields : List (String × Shape))
  deriving Inhabited

def isNull : Json → Bool
  | .null => true
  | _ => false

namespace Shape

def texts : Shape :=
  .list .text

def labels : Shape :=
  .map .text

mutual

def fits : Shape → Json → Bool
  | .anything, _ => true
  | .text, .str _ => true
  | .integer, .int _ => true
  | .truth, .bool _ => true
  | .word words, v => (bareCase? v).any (words.contains ·)
  | .list element, .arr elements => elements.all fun v => fits element v
  | .map value, .obj members => members.all fun m => fits value m.2
  | .orNull value, v => v.isNull || fits value v
  | .record fields, .obj members => fitsMembers fields members
  | .record fields, .arr elements => fitsPositions fields elements
  | _, _ => false

/-- Whether the members of an object that are fields of a record have their shapes. -/
def fitsMembers : List (String × Shape) → List (String × Json) → Bool
  | [], _ => true
  | (name, shape) :: fields, members =>
    (match members.filter (·.1 = name) with
      | [] => true
      | [(_, v)] => v.isNull || fits shape v
      | _ => false) && fitsMembers fields members

/-- Whether the elements of an array are the fields of a record. -/
def fitsPositions : List (String × Shape) → List Json → Bool
  | [], [] => true
  | (_, shape) :: fields, v :: rest => (v.isNull || fits shape v) && fitsPositions fields rest
  | _, _ => false

end

/-- The value of a field among the elements of an array. -/
def positioned? (name : String) : List (String × Shape) → List Json → Option Json
  | (field, _) :: fields, v :: rest => if field = name then some v else positioned? name fields rest
  | _, _ => none

/-- The value of a field of a record with its shape. A field that is null has no value. -/
def field? (name : String) : Shape → Json → Option (Shape × Json)
  | .record fields, v => do
    let (_, shape) ← fields.find? (·.1 = name)
    let found ← match v with
      | .arr elements => positioned? name fields elements
      | v => get? name v
    if found.isNull then none else some (shape, found)
  | _, _ => none

/-- The value at the end of a path of fields through records. -/
def valueAt? : List String → Shape → Json → Option Json
  | [], _, v => some v
  | name :: path, shape, v => (field? name shape v).bind fun (shape, v) => valueAt? path shape v

end Shape

end Flotilla.Json
