import Flotilla.Batch
import Flotilla.Selection

/-!
# Migrations

Every container of one node is created again on another one, and then removed from the first
unless it is to be kept. The copy always exists before its source is removed. A removal that
fails leaves both; the entry says so and counts as a failure.

If the name of a container is taken on the target, the copy is tried once more under the name
with a suffix that holds the position of the container in the listing.
-/

namespace Flotilla

/-- A migration to run. -/
structure Migration where
  source : String
  target : String
  /-- Copy only, and leave the source as it is. -/
  keepSource : Bool
  /-- The operator has agreed; nothing is done otherwise. -/
  confirmed : Bool
  deriving DecidableEq, Repr, Inhabited

namespace Migration

def fields : List Json.Field :=
  [.required "source_node_id", .required "target_node_id", .optional "keep_source",
    .optional "confirmed"]

def ofJson? (j : Json) : Option Migration :=
  match Json.record? fields j with
  | some [source, target, keepSource, confirmed] => do
    return {
      source := ← Json.need Json.text? source
      target := ← Json.need Json.text? target
      keepSource := ← Json.orDefault false Json.bool? keepSource
      confirmed := ← Json.orDefault false Json.bool? confirmed }
  | _ => none

def toJson (m : Migration) : Json :=
  .object [("source_node_id", .str m.source), ("target_node_id", .str m.target),
    ("keep_source", .bool m.keepSource), ("confirmed", .bool m.confirmed)]

/-! ## Endpoints -/

/-- The node with an id, if it is there and connected. -/
def endpoint (nodes : List Node) (id : String) : Except Refusal Node :=
  match nodes.find? (·.id = id) with
  | none => .error (.unmet (.nodeNotFound id))
  | some node =>
    if node.isConnected then .ok node else .error (.unmet (.nodeNotConnected node.displayName))

/-- Both ends of a migration among the nodes of the registry, the source first. -/
def endpoints (nodes : List Node) (source target : String) : Except Refusal (Node × Node) :=
  match endpoint nodes source with
  | .error e => .error e
  | .ok sourceNode =>
    match endpoint nodes target with
    | .error e => .error e
    | .ok targetNode => .ok (sourceNode, targetNode)

/-- What a migration needs before any call is made. -/
def precheck (m : Migration) : Except Refusal Unit :=
  let source := Text.trim m.source
  let target := Text.trim m.target
  if source = "" ∨ target = "" then .error (.unmet .endpointsMissing)
  else if source = target then .error (.unmet .endpointsEqual)
  else if !m.confirmed then .error (.unmet .notConfirmed)
  else .ok ()

/-! ## Items -/

/-- The name of the second attempt to create the container at a position. -/
def retryName (name : String) (index : Nat) : String :=
  name ++ "-migrated-" ++ Text.decimal index

/-- Create a container, and once more under another name if its name is taken. Brings back the
plan that was carried out, or the fault of the last attempt. -/
def createOnTarget (target : String) (plan : Plan) (index : Nat) : Remote (Except Fault Plan) := do
  match ← Remote.call (.create target plan) with
  | .ok _ => return .ok plan
  | .error fault =>
    -- Without a name there is none that could be taken.
    if fault.isNameConflict && plan.name ≠ "" then
      let retry := plan.renamed (retryName plan.name index)
      match ← Remote.call (.create target retry) with
      | .ok _ => return .ok retry
      | .error fault => return .error fault
    else return .error fault

def createdMessage (targetName containerName : String) : String :=
  if containerName = "" then "created on " ++ targetName
  else "created on " ++ targetName ++ " as " ++ containerName

/-- Migrate the container at a position of the listing, counted from one. -/
def migrateItem (keepSource : Bool) (source target : Node) (container : Container)
    (index : Nat) : Remote Outcome := do
  match ← Remote.call (.inspect source.id container.id) with
  | .error fault => return ⟨.pending, fault.message⟩
  | .ok snapshot =>
    match migrationPlan container snapshot with
    | .error refusal => return ⟨.pending, refusal.message⟩
    | .ok plan =>
      match ← createOnTarget target.id plan index with
      | .error fault => return ⟨.planned, fault.message⟩
      | .ok created =>
        let message := createdMessage target.displayName created.name
        -- From here on there are two containers; the source goes last.
        if keepSource then return ⟨.completed, message ++ "; source kept"⟩
        else match ← Remote.call (.delete source.id container.id) with
          | .ok _ => return ⟨.completed, message ++ "; removed from source"⟩
          | .error fault =>
            return ⟨.targetCreated,
              message ++ "; failed to remove from source: " ++ fault.message⟩

/-- Migrate the containers from a position on, as long as the migration is not cancelled. -/
def process (keepSource : Bool) (source target : Node) :
    Nat → List Container → Ledger → Remote Ledger
  | _, [], ledger => return ledger
  | index, container :: rest, ledger => do
    if ← Remote.cancelled then
      return ledger.cancel
    else
      let outcome ← migrateItem keepSource source target container index
      let entry := outcome.entry ⟨source.id, container.id⟩ source.displayName container
      process keepSource source target (index + 1) rest (ledger.push entry)

/-- Both ends of a migration, as the registry knows them. -/
def findEndpoints (m : Migration) : Remote (Except Refusal (Node × Node)) :=
  match m.precheck with
  | .error e => return .error e
  | .ok _ => do
    match ← listNodes with
    | .error e => return .error e
    | .ok nodes => return endpoints nodes (Text.trim m.source) (Text.trim m.target)

/-- Run a migration: one entry for every container that was attempted, in the order of the
listing, and one refresh at the end. -/
def run (m : Migration) : Remote (Except Refusal Ledger) := do
  match ← m.findEndpoints with
  | .error e => return .error e
  | .ok (source, target) =>
    match ← Remote.call (.list source.id) with
    | .error fault => return .error (.unreachable source.displayName fault)
    | .ok containers =>
      if containers.isEmpty then return .error (.unmet .noContainers)
      else
        let ledger ←
          process m.keepSource source target 1 containers (Ledger.start (← Remote.clock))
        let ledger := ledger.finish (← Remote.clock)
        Remote.refresh
        return .ok ledger

end Migration

/-- The number of containers that a migration from a node would copy. -/
def countContainers (node : String) : Remote (Except Refusal Nat) := do
  match ← Remote.call (.list node) with
  | .error fault => return .error (.unreachable node fault)
  | .ok containers => return .ok containers.length

end Flotilla
