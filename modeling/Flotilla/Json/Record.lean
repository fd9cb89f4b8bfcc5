import Flotilla.Json.Basic

/-!
# Records

How a record is read from JSON. In the object form the members may come in any order and unknown
members are passed over, but a known one may not be repeated. In the positional form, an array,
the fields come in their declared order and there may not be more elements than fields. Which
fields may be left out is declared field by field.
-/

namespace Flotilla.Json

/-- A field of a record: its name, and whether it may be missing in either form. -/
structure Field where
  name : String
  /-- The object form may leave the field out. -/
  absent : Bool
  /-- The positional form may end before the field. -/
  cut : Bool
  deriving Repr, DecidableEq

namespace Field

def required (name : String) : Field := ⟨name, false, false⟩

def optional (name : String) : Field := ⟨name, true, true⟩

/-- A field that may be missing in the object form only. -/
def nullable (name : String) : Field := ⟨name, true, false⟩

end Field

/-- The value of a field among the members of an object: `none` if the record is refused,
`some none` if the field is rightly missing. -/
def member? (members : List (String × Json)) (field : Field) : Option (Option Json) :=
  match members.filter (·.1 = field.name) with
  | [] => if field.absent then some none else none
  | [(_, v)] => some (some v)
  | _ => none

/-- The values of the fields in the positional form. -/
def positions? : List Field → List Json → Option (List (Option Json))
  | [], [] => some []
  | [], _ :: _ => none
  | field :: fields, [] =>
    if field.cut then (positions? fields []).map (none :: ·) else none
  | _ :: fields, v :: rest => (positions? fields rest).map (some v :: ·)

def members? (members : List (String × Json)) : List Field → Option (List (Option Json))
  | [] => some []
  | field :: fields =>
    match member? members field, members? members fields with
    | some v, some rest => some (v :: rest)
    | _, _ => none

/-- The values of the fields of a record, aligned with their declarations. -/
def record? (fields : List Field) : Json → Option (List (Option Json))
  | .obj members => members? members fields
  | .arr elements => positions? fields elements
  | _ => none

/-! ## Values of fields -/

def need (read : Json → Option α) : Option Json → Option α
  | some v => read v
  | none => none

/-- A field with a default for its absence; null is no absence. -/
def orDefault (default : α) (read : Json → Option α) : Option Json → Option α
  | some v => read v
  | none => some default

def maybe (read : Json → Option α) : Option Json → Option (Option α)
  | none => some none
  | some .null => some none
  | some v => (read v).map some

def text? : Json → Option String
  | .str s => some s
  | _ => none

def bool? : Json → Option Bool
  | .bool b => some b
  | _ => none

/-- Every element by the same reader, or nothing. -/
def all? (read : Json → Option α) : List Json → Option (List α)
  | [] => some []
  | v :: rest =>
    match read v, all? read rest with
    | some a, some as => some (a :: as)
    | _, _ => none

/-- An array whose elements are all read by the same reader. -/
def list? (read : Json → Option α) : Json → Option (List α)
  | .arr elements => all? read elements
  | _ => none

/-- The name of a bare case: a string, or an object with that single member set to null. -/
def bareCase? : Json → Option String
  | .str s => some s
  | .obj [(s, .null)] => some s
  | _ => none

/-- The value of a member of an object, the first one if it is repeated. -/
def get? (name : String) : Json → Option Json
  | .obj members => (members.find? (·.1 = name)).map (·.2)
  | _ => none

end Flotilla.Json
