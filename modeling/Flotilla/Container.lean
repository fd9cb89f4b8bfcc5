import Flotilla.Json.Record
import Flotilla.Text.Lowercase
import Flotilla.Text.Search

/-!
# Containers

One entry of a node's container list, and the filter that finds entries. A filter is compared
with the lowercase form of all the texts of an entry, one blank between them.
-/

namespace Flotilla

/-- An entry of a node's container list. -/
structure Container where
  id : String
  image : String
  names : List String
  /-- What the container is doing, in words for operators. -/
  status : String
  /-- What the container is doing, in one word. -/
  state : String
  deriving DecidableEq, Repr, Inhabited

namespace Container

/-- The first name without leading slashes, or the empty text. -/
def primaryName (c : Container) : String :=
  (c.names.head?.map (Text.dropLeading '/')).getD ""

def shortId (c : Container) : String :=
  Text.first 12 c.id

/-- The texts of an entry that a filter is compared with, before lowering. -/
def searchText (c : Container) : String :=
  Text.join " " <|
    [c.id, c.image, c.status, c.state, Text.join " " c.names].filter (· ≠ "")

/-- Whether the entry satisfies a query, which is a filter in lowercase. The empty query is
satisfied by every entry. -/
def satisfies (c : Container) (query : String) : Bool :=
  query = "" || Text.contains (Text.lowercase c.searchText) query

/-! ## JSON form -/

def fields : List Json.Field :=
  [.optional "Id", .optional "Image", .optional "Names", .optional "Status", .optional "State"]

/-- An entry from JSON; every field may be missing, but none may be null. -/
def ofJson? (j : Json) : Option Container :=
  match Json.record? fields j with
  | some [id, image, names, status, state] => do
    return {
      id := ← Json.orDefault "" Json.text? id
      image := ← Json.orDefault "" Json.text? image
      names := ← Json.orDefault [] (Json.list? Json.text?) names
      status := ← Json.orDefault "" Json.text? status
      state := ← Json.orDefault "" Json.text? state }
  | _ => none

def toJson (c : Container) : Json :=
  .object [("Id", .str c.id), ("Image", .str c.image), ("Names", .strings c.names),
    ("Status", .str c.status), ("State", .str c.state)]

end Container

end Flotilla
