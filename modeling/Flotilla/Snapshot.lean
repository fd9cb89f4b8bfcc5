import Flotilla.Port
import Flotilla.Text.Lowercase
import Flotilla.Text.Search

/-!
# Snapshots

The configuration of a container at one moment, as far as it is needed to create the container
anew.
-/

namespace Flotilla

def noRestart : String := "no"

/-- A restart policy in its usual form: trimmed and in lowercase, where an empty one and the word
`none` mean that the container is never restarted. -/
def normalizePolicy (policy : String) : String :=
  let low := Text.lowercase (Text.trim policy)
  if low = "" ∨ low = "none" then noRestart else low

/-- The configuration of a container at one moment. -/
structure Snapshot where
  name : Option String
  image : Option String
  env : List String
  ports : List Port
  restartPolicy : String
  deriving DecidableEq, Repr, Inhabited

namespace Snapshot

/-- The image, unless it is blank. -/
def image? (s : Snapshot) : Option String :=
  s.image.bind Text.nonBlank?

/-- The name without leading slashes, unless nothing is left. -/
def canonicalName? (s : Snapshot) : Option String :=
  (s.name.map (Text.dropLeading '/')).filter (· ≠ "")

/-- Whether the container is restarted automatically. -/
def restarts (s : Snapshot) : Bool :=
  s.restartPolicy ≠ noRestart

/-! ## JSON form -/

def fields : List Json.Field :=
  [.nullable "name", .nullable "image", .required "env", .required "ports",
    .required "restart_policy"]

def ofJson? (j : Json) : Option Snapshot :=
  match Json.record? fields j with
  | some [name, image, env, ports, policy] => do
    return {
      name := ← Json.maybe Json.text? name
      image := ← Json.maybe Json.text? image
      env := ← Json.need (Json.list? Json.text?) env
      ports := ← Json.need (Json.list? Port.ofJson?) ports
      restartPolicy := ← Json.need Json.text? policy }
  | _ => none

def toJson (s : Snapshot) : Json :=
  .object [("name", .strOrNull s.name), ("image", .strOrNull s.image),
    ("env", .strings s.env), ("ports", .arr (s.ports.map Port.toJson)),
    ("restart_policy", .str s.restartPolicy)]

end Snapshot

end Flotilla
