import Flotilla.Cluster.Basic
import Flotilla.Migration
import Flotilla.Scan

/-!
# Sessions

A series of operations on one cluster. A session remembers the nodes that were selected and the
matches that were found last, so that a scan can follow a selection and a batch can follow a scan.
-/

namespace Flotilla

/-- A series of operations on a cluster. -/
structure Session where
  cluster : Cluster
  selected : List Node
  found : List Match
  /-- How often the operator's views were told to refresh. -/
  refreshes : Nat

namespace Session

/-- One operation. Nodes or matches that are not given are the remembered ones. -/
inductive Step where
  | nodes
  | select (selection : Selection)
  | scan (filter : String) (nodes : Option (List Node))
  | scanBestEffort (filter : String) (nodes : Option (List Node))
  | run (action : Action) (overrides : Option Overrides) (items : Option (List Match))
      (cancelAfter : Option Nat)
  | migrate (migration : Migration) (cancelAfter : Option Nat)
  | count (node : String)
  | plan (item : Match) (overrides : Option Overrides)
  /-- Replace the nodes of the registry. -/
  | setNodes (nodes : List Node)
  /-- Add rules that let calls fail. -/
  | fail (rules : List FailRule)
  /-- Drop all rules and the fault of the registry. -/
  | clearFails

/-- What an operation brings. -/
inductive Result where
  | nothing
  | nodes (nodes : List Node)
  | found (items : List Match)
  | report (report : ScanReport)
  | ledger (ledger : Ledger)
  | count (n : Nat)
  | plan (plan : Plan)

/-- What is known after an operation: its result and the calls that it made. -/
structure Record where
  result : Except Refusal Result
  calls : List Call

/-- A token that is cancelled once a number of calls have been made. -/
def tokenAfter (limit : Option Nat) (events : List Event) : Bool :=
  limit.any (· ≤ (callsOf events).length)

def start (cluster : Cluster) : Session :=
  ⟨cluster, [], [], 0⟩

def runRemote {α : Type} (s : Session) (cancelAfter : Option Nat)
    (p : Remote (Except Refusal α)) : Except Refusal α × List Call × Session :=
  let (value, run) := (Cluster.world (tokenAfter cancelAfter)).run p s.cluster
  (value, callsOf run.events,
    { s with
      cluster := run.state
      refreshes := s.refreshes + run.events.countP Event.isRefresh })

def perform (s : Session) : Step → Record × Session
  | .nodes =>
    let (value, calls, s) := s.runRemote none listNodes
    (⟨value.map .nodes, calls⟩, s)
  | .select selection =>
    let (value, calls, s) := s.runRemote none (selectNodes selection)
    (⟨value.map .nodes, calls⟩, { s with selected := value.toOption.getD s.selected })
  | .scan filter nodes =>
    let (value, calls, s) := s.runRemote none (Flotilla.scan (nodes.getD s.selected) filter)
    (⟨value.map .found, calls⟩, { s with found := value.toOption.getD s.found })
  | .scanBestEffort filter nodes =>
    let (value, calls, s) :=
      s.runRemote none (Flotilla.scanBestEffort (nodes.getD s.selected) filter)
    (⟨value.map .report, calls⟩,
      { s with found := (value.toOption.map ScanReport.found).getD s.found })
  | .run action overrides items cancelAfter =>
    let batch : Batch := ⟨items.getD s.found, action, overrides⟩
    let (value, calls, s) := s.runRemote cancelAfter batch.run
    (⟨value.map .ledger, calls⟩, s)
  | .migrate migration cancelAfter =>
    let (value, calls, s) := s.runRemote cancelAfter migration.run
    (⟨value.map .ledger, calls⟩, s)
  | .count node =>
    let (value, calls, s) := s.runRemote none (countContainers node)
    (⟨value.map .count, calls⟩, s)
  | .plan item overrides =>
    let (value, calls, s) := s.runRemote none (planRedeploy item (overrides.getD .keep))
    (⟨value.map .plan, calls⟩, s)
  | .setNodes nodes =>
    (⟨.ok .nothing, []⟩, { s with cluster := { s.cluster with nodes := nodes } })
  | .fail rules =>
    (⟨.ok .nothing, []⟩,
      { s with cluster := { s.cluster with rules := s.cluster.rules ++ rules } })
  | .clearFails =>
    (⟨.ok .nothing, []⟩,
      { s with cluster := { s.cluster with rules := [], registryFault := none } })

end Session

end Flotilla
