import Flotilla.Container
import Flotilla.Json.Record

/-!
# Matches

A container that a scan found, together with its node. Within one scan a match is told apart by
the ids of its node and its container.
-/

namespace Flotilla

/-- What tells a match apart within one scan. -/
structure MatchKey where
  nodeId : String
  containerId : String
  deriving DecidableEq, Repr, Inhabited

namespace MatchKey

def shown (k : MatchKey) : String :=
  k.nodeId ++ ":" ++ k.containerId

/-- Order by node id, then by container id, both by code points. -/
def le (k l : MatchKey) : Bool :=
  k.nodeId < l.nodeId || (k.nodeId = l.nodeId && k.containerId ≤ l.containerId)

def fields : List Json.Field :=
  [.required "node_id", .required "container_id"]

def ofJson? (j : Json) : Option MatchKey :=
  match Json.record? fields j with
  | some [node, container] => do
    return ⟨← Json.need Json.text? node, ← Json.need Json.text? container⟩
  | _ => none

def toJson (k : MatchKey) : Json :=
  .object [("node_id", .str k.nodeId), ("container_id", .str k.containerId)]

end MatchKey

/-- A container that a scan found on a node. -/
structure Match where
  nodeId : String
  nodeName : String
  /-- The token that stands for the node in container names. -/
  nodeToken : String
  container : Container
  deriving DecidableEq, Repr, Inhabited

namespace Match

def key (m : Match) : MatchKey :=
  ⟨m.nodeId, m.container.id⟩

def fields : List Json.Field :=
  [.required "node_id", .required "node_name", .required "node_token", .required "container"]

def ofJson? (j : Json) : Option Match :=
  match Json.record? fields j with
  | some [id, name, token, container] => do
    return ⟨← Json.need Json.text? id, ← Json.need Json.text? name,
      ← Json.need Json.text? token, ← Json.need Container.ofJson? container⟩
  | _ => none

def toJson (m : Match) : Json :=
  .object [("node_id", .str m.nodeId), ("node_name", .str m.nodeName),
    ("node_token", .str m.nodeToken), ("container", m.container.toJson)]

end Match

end Flotilla
