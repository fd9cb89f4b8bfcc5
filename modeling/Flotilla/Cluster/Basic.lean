import Flotilla.Remote.World

/-!
# An In-Memory Cluster

A control plane that keeps its nodes and their containers in memory. It carries out calls the way
a real one does, and it can be told to fail: a rule says which calls fail, with what fault and how
often. The first rule that applies decides.
-/

namespace Flotilla

/-- A container in memory: its entry in listings and its configuration. -/
structure Held where
  summary : Container
  snapshot : Snapshot
  deriving DecidableEq, Repr, Inhabited

/-- A rule that lets calls fail. -/
structure FailRule where
  /-- The word of the calls that fail. -/
  word : String
  /-- The node of the calls that fail, if only one. -/
  node : Option String
  /-- The subject of the calls that fail, if only one. -/
  subject : Option String
  /-- How often the rule still applies; without a number it always does. -/
  left : Option Nat
  fault : Fault
  deriving DecidableEq, Repr

namespace FailRule

/-- Whether the rule is about the call, used up or not. -/
def covers (r : FailRule) (c : Call) : Bool :=
  r.word = c.word && r.node.all (· = c.node) && r.subject.all (· = c.subject)

def isLive (r : FailRule) : Bool :=
  r.left.all (0 < ·)

def spend (r : FailRule) : FailRule :=
  { r with left := r.left.map (· - 1) }

/-- The fault of the first live rule about a call, and the rules after it applied. -/
def fire? (c : Call) : List FailRule → Option (Fault × List FailRule)
  | [] => none
  | r :: rest =>
    if r.covers c && r.isLive then some (r.fault, r.spend :: rest)
    else (fire? c rest).map fun (fault, rules) => (fault, r :: rules)

end FailRule

/-- A control plane in memory. -/
structure Cluster where
  nodes : List Node
  /-- The fault of the registry, if it has one. -/
  registryFault : Option Fault
  /-- The containers of every node that can be reached. -/
  hosts : List (String × List Held)
  rules : List FailRule
  /-- The number of containers created so far. -/
  created : Nat
  deriving DecidableEq, Repr

namespace Cluster

/-- The containers of a node, if it can be reached. -/
def host? (k : Cluster) (node : String) : Option (List Held) :=
  (k.hosts.find? (·.1 = node)).map (·.2)

def setHost (k : Cluster) (node : String) (held : List Held) : Cluster :=
  { k with hosts := k.hosts.map fun (n, old) => (n, if n = node then held else old) }

/-- The fault of a call to a node that cannot be reached. -/
def notConnected : Fault :=
  .ofResponse 404 "node not connected"

/-- The fault of a call about a container that is not there. -/
def noSuchContainer (id : String) : Fault :=
  .ofResponse 404 ("No such container: " ++ id)

/-- The fault of a creation under a name that is taken. -/
def nameTaken (name : String) : Fault :=
  ⟨.conflict, none, "container name \"/" ++ name ++ "\" already in use"⟩

def modifyFirst (id : String) (f : Held → Held) : List Held → List Held
  | [] => []
  | h :: rest => if h.summary.id = id then f h :: rest else h :: modifyFirst id f rest

def removeFirst (id : String) : List Held → List Held
  | [] => []
  | h :: rest => if h.summary.id = id then rest else h :: removeFirst id rest

def withState (state : String) (h : Held) : Held :=
  { h with summary := { h.summary with state := state } }

/-- The restart policy of a container that is created from a plan. -/
def policyOf (plan : Plan) : String :=
  plan.restartPolicy.getD (if plan.autoRestart then "unless-stopped" else noRestart)

/-- The container that is created from a plan as the one with a number. -/
def build (plan : Plan) (number : Nat) : Held where
  summary :=
    { id := "new-" ++ Text.decimal number
      image := plan.image
      names := if plan.name = "" then [] else ["/" ++ plan.name]
      status := "Up"
      state := "running" }
  snapshot :=
    { name := if plan.name = "" then none else some plan.name
      image := some plan.image
      env := plan.env
      ports := plan.ports
      restartPolicy := policyOf plan }

def isTaken (name : String) (held : List Held) : Bool :=
  name ≠ "" && held.any (·.summary.primaryName = name)

/-- A change of the first container with an id, if it is there. -/
def change (k : Cluster) (node id : String) (f : List Held → List Held) :
    Except Fault Unit × Cluster :=
  match k.host? node with
  | none => (.error notConnected, k)
  | some held =>
    if held.any (·.summary.id = id) then (.ok (), k.setHost node (f held))
    else (.error (noSuchContainer id), k)

def perform (k : Cluster) : (c : Call) → c.Reply × Cluster
  | .nodes => (match k.registryFault with
      | some fault => .error fault
      | none => .ok k.nodes, k)
  | .list node => (match k.host? node with
      | none => .error notConnected
      | some held => .ok (held.map (·.summary)), k)
  | .inspect node id => (match k.host? node with
      | none => .error notConnected
      | some held =>
        match held.find? (·.summary.id = id) with
        | some h => .ok h.snapshot
        | none => .error (noSuchContainer id), k)
  | .start node id => k.change node id (modifyFirst id (withState "running"))
  | .stop node id => k.change node id (modifyFirst id (withState "exited"))
  | .delete node id => k.change node id (removeFirst id)
  | .create node plan =>
    match k.host? node with
    | none => (.error notConnected, k)
    | some held =>
      if isTaken plan.name held then (.error (nameTaken plan.name), k)
      else
        (.ok (), { k.setHost node (held ++ [build plan (k.created + 1)]) with
          created := k.created + 1 })

/-- Reply to a call: by a rule that lets it fail, or by carrying it out. -/
def reply (c : Call) (k : Cluster) : c.Reply × Cluster :=
  match FailRule.fire? c k.rules with
  | some (fault, rules) => (.error fault, { k with rules := rules })
  | none => k.perform c

/-- The world of a cluster, with a decision about cancellation. Its clock stands still. -/
def world (cancelled : List Event → Bool) : World Cluster where
  reply := reply
  cancelled := cancelled
  clock := fun _ => ⟨0, 0⟩

end Cluster

end Flotilla
