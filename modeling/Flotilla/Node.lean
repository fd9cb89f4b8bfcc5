import Flotilla.Json.Record
import Flotilla.Text.Blank
import Flotilla.Text.Search

/-!
# Nodes

A managed host that runs containers, as the registry reports it. A node is connected or it is
not; every status word but one means that it is not.
-/

namespace Flotilla

/-- Whether a node can be reached. -/
inductive NodeStatus where
  | connected
  | disconnected
  deriving DecidableEq, Repr, Inhabited

namespace NodeStatus

def word : NodeStatus → String
  | connected => "connected"
  | disconnected => "disconnected"

/-- Any word but one means that the node is not connected. -/
def ofWord (s : String) : NodeStatus :=
  if s = "connected" then connected else disconnected

end NodeStatus

/-- A host of the fleet. -/
structure Node where
  id : String
  /-- The alias that an operator gave to the node. -/
  name : Option String
  status : NodeStatus
  address : String
  version : Option String
  deriving DecidableEq, Repr, Inhabited

/-- Whether a character may stand in a container name that is made from a node's name. -/
def isNameChar (c : Char) : Bool :=
  ('a' ≤ c && c ≤ 'z') || ('A' ≤ c && c ≤ 'Z') || ('0' ≤ c && c ≤ '9') ||
    c == '_' || c == '.' || c == '-'

/-- A text with a dash for every character that may not stand in a container name. -/
def sanitize (s : String) : String :=
  String.ofList (s.toList.map fun c => if isNameChar c then c else '-')

namespace Node

/-- A node of which only the id and the status are known. -/
def new (id : String) (status : NodeStatus) : Node :=
  ⟨id, none, status, "", none⟩

def isConnected (n : Node) : Bool :=
  n.status = .connected

/-- The alias of the node, unless it is blank. -/
def alias? (n : Node) : Option String :=
  n.name.bind Text.nonBlank?

/-- The name shown to operators: the alias, or the first eight characters of the id. -/
def displayName (n : Node) : String :=
  n.alias?.getD (Text.first 8 n.id ++ "...")

/-- The token that stands for the node in container names. -/
def nameToken (n : Node) : String :=
  sanitize (n.alias?.getD (if n.id = "" then "node" else n.id))

/-! ## JSON form -/

def fields : List Json.Field :=
  [.required "node_id", .optional "name", .required "status", .optional "remote_addr",
    .optional "version"]

def statusOfJson? (j : Json) : Option NodeStatus :=
  (Json.bareCase? j).map NodeStatus.ofWord

def ofJson? (j : Json) : Option Node :=
  match Json.record? fields j with
  | some [id, name, status, address, version] => do
    return {
      id := ← Json.need Json.text? id
      name := ← Json.maybe Json.text? name
      status := ← Json.need statusOfJson? status
      address := ← Json.orDefault "" Json.text? address
      version := ← Json.maybe Json.text? version }
  | _ => none

/-- A member that is left out when there is no value. -/
def optionalMember (name : String) : Option String → List (String × Json)
  | some s => [(name, .str s)]
  | none => []

def toJson (n : Node) : Json :=
  .object <| [("node_id", .str n.id)] ++ optionalMember "name" n.name ++
    [("status", .str n.status.word), ("remote_addr", .str n.address)] ++
    optionalMember "version" n.version

end Node

end Flotilla
