import Flotilla.Distinct
import Flotilla.Remote.World
import Flotilla.Text.Blank

/-!
# Scans

A scan lists the containers of every given node once and keeps those that satisfy the filter.
The matches are ordered by the shown name of the node, then by the id of the container.

A plain scan is all or nothing: it stops at the first node whose listing fails. A best-effort
scan lists all nodes and reports those that failed beside the matches.
-/

namespace Flotilla

/-- A node whose listing failed. -/
structure ScanFailure where
  nodeId : String
  nodeName : String
  fault : Fault
  deriving DecidableEq, Repr

/-- The result of a best-effort scan. -/
structure ScanReport where
  found : List Match
  failures : List ScanFailure
  deriving DecidableEq, Repr

def ScanReport.isComplete (r : ScanReport) : Bool :=
  r.failures.isEmpty

namespace Scan

def query (filter : String) : String :=
  Text.lowercase (Text.trim filter)

def matchOf (node : Node) (container : Container) : Match :=
  ⟨node.id, node.displayName, node.nameToken, container⟩

/-- The matches in one listing, in its order. -/
def matchesIn (query : String) (listing : Node × List Container) : List Match :=
  (listing.2.filter (·.satisfies query)).map (matchOf listing.1)

/-- Order by the shown name of the node, then by the id of the container. -/
def le (a b : Match) : Bool :=
  a.nodeName < b.nodeName || (a.nodeName = b.nodeName && a.container.id ≤ b.container.id)

/-- The matches in all listings: the first one of every key, in order. -/
def collect (filter : String) (listings : List (Node × List Container)) : List Match :=
  (distinctBy Match.key (listings.flatMap (matchesIn (query filter)))).mergeSort le

/-- The given nodes, each id once. -/
def distinctNodes (nodes : List Node) : Except Refusal (List Node) :=
  if nodes.isEmpty then .error (.unmet .noNodes) else .ok (distinctBy Node.id nodes)

def listAll : List Node → Remote (Except (Node × Fault) (List (Node × List Container)))
  | [] => return .ok []
  | node :: rest => do
    match ← Remote.call (.list node.id) with
    | .error fault => return .error (node, fault)
    | .ok containers =>
      match ← listAll rest with
      | .error e => return .error e
      | .ok listings => return .ok ((node, containers) :: listings)

/-- List all nodes: the listings, and the nodes that failed, both in the order of the nodes. -/
def listEach : List Node → Remote (List (Node × List Container) × List ScanFailure)
  | [] => return ([], [])
  | node :: rest => do
    match ← Remote.call (.list node.id) with
    | .error fault =>
      let (listings, failures) ← listEach rest
      return (listings, ⟨node.id, node.displayName, fault⟩ :: failures)
    | .ok containers =>
      let (listings, failures) ← listEach rest
      return ((node, containers) :: listings, failures)

end Scan

/-- Find the containers that satisfy the filter, or say which node could not be listed. -/
def scan (nodes : List Node) (filter : String) : Remote (Except Refusal (List Match)) :=
  match Scan.distinctNodes nodes with
  | .error e => return .error e
  | .ok nodes => do
    match ← Scan.listAll nodes with
    | .error (node, fault) => return .error (.unreachable node.displayName fault)
    | .ok listings => return .ok (Scan.collect filter listings)

/-- Find the containers that satisfy the filter on the nodes that can be listed. -/
def scanBestEffort (nodes : List Node) (filter : String) :
    Remote (Except Refusal ScanReport) :=
  match Scan.distinctNodes nodes with
  | .error e => return .error e
  | .ok nodes => do
    let (listings, failures) ← Scan.listEach nodes
    return .ok ⟨Scan.collect filter listings, failures⟩

end Flotilla
