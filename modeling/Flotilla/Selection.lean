import Flotilla.Remote.World

/-!
# Selecting Nodes

Which nodes of the registry an operation is about. The registry's order is kept; ids that the
registry does not know are passed over.
-/

namespace Flotilla

/-- Which nodes an operation is about. -/
inductive Selection where
  /-- The connected nodes. -/
  | connected
  /-- All nodes. -/
  | all
  /-- The nodes with these ids. -/
  | ids (wanted : List String)
  deriving DecidableEq, Repr, Inhabited

namespace Selection

def covers : Selection → Node → Bool
  | connected, n => n.isConnected
  | all, _ => true
  | ids wanted, n => wanted.contains n.id

/-- The selected nodes, in the registry's order. -/
def resolve (s : Selection) (nodes : List Node) : List Node :=
  nodes.filter s.covers

def ofJson? (j : Json) : Option Selection :=
  match j with
  | .obj [("ids", v)] => (Json.list? Json.text? v).map ids
  | j =>
    match Json.bareCase? j with
    | some "connected" => some connected
    | some "all" => some all
    | _ => none

def toJson : Selection → Json
  | connected => .str "connected"
  | all => .str "all"
  | ids wanted => .object [("ids", .strings wanted)]

end Selection

def listNodes : Remote (Except Refusal (List Node)) := do
  match ← Remote.call .nodes with
  | .error fault => return .error (.unreachable "registry" fault)
  | .ok nodes => return .ok nodes

def selectNodes (s : Selection) : Remote (Except Refusal (List Node)) := do
  match ← listNodes with
  | .error e => return .error e
  | .ok nodes => return .ok (s.resolve nodes)

end Flotilla
