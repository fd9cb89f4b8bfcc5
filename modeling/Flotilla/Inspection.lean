import Flotilla.Json.Record
import Flotilla.Snapshot
import Flotilla.Text.Lines

/-!
# Inspections

What a node says about one of its containers, and the snapshot that is taken from it. Of the many
members of the answer only a few matter: the name, the image, the environment, the bindings of
ports and the restart policy. All of them may be missing.

Bindings come as a map from a container port, with or without a protocol, to the host ports bound
to it. The snapshot orders them, so the order of the map does not show.
-/

namespace Flotilla

/-- A restart policy of the node's container engine. -/
inductive RestartPolicy where
  | unset
  | no
  | always
  | unlessStopped
  | onFailure
  deriving DecidableEq, Repr, Inhabited

namespace RestartPolicy

def word : RestartPolicy → String
  | unset => ""
  | no => "no"
  | always => "always"
  | unlessStopped => "unless-stopped"
  | onFailure => "on-failure"

def all : List RestartPolicy :=
  [unset, no, always, unlessStopped, onFailure]

def ofJson? (j : Json) : Option RestartPolicy :=
  (Json.bareCase? j).bind fun s => all.find? (·.word = s)

end RestartPolicy

/-- What a node says about a container. -/
structure Inspection where
  name : Option String
  image : Option String
  env : Option (List String)
  /-- The host ports that are bound to each container port. -/
  bindings : List (String × List (Option String))
  policy : Option RestartPolicy
  deriving DecidableEq, Repr

namespace Inspection

/-! ## The snapshot -/

/-- The number of a container port: the text before the first slash. -/
def containerPort? (key : String) : Option UInt16 :=
  ((Text.split '/' key).head?.map Text.trim).bind Port.number?

/-- The number of a bound host port, unless it is blank or no number. -/
def hostPort? (text : Option String) : Option UInt16 :=
  (text.bind Text.nonBlank?).bind Port.number?

def portsOf (entry : String × List (Option String)) : List Port :=
  match containerPort? entry.1 with
  | none => []
  | some container => (entry.2.filterMap hostPort?).map fun host => ⟨host, container⟩

/-- Order by container port, then by host port. -/
def portLe (p q : Port) : Bool :=
  p.container < q.container || (p.container = q.container && p.host ≤ q.host)

/-- A list without elements that equal the one before them. -/
def dropRepeats {α : Type} [DecidableEq α] : List α → List α
  | [] => []
  | [a] => [a]
  | a :: b :: rest => if a = b then dropRepeats (b :: rest) else a :: dropRepeats (b :: rest)

/-- The published ports, ordered and without repetitions. -/
def publishedPorts (i : Inspection) : List Port :=
  dropRepeats ((i.bindings.flatMap portsOf).mergeSort portLe)

def policyWord (i : Inspection) : String :=
  normalizePolicy <| match i.policy with
    | none | some .unset | some .no => noRestart
    | some policy => policy.word

def snapshot (i : Inspection) : Snapshot where
  name := (i.name.map (Text.dropLeading '/')).filter (· ≠ "")
  image := i.image.filter fun image => Text.trim image ≠ ""
  env := i.env.getD []
  ports := i.publishedPorts
  restartPolicy := i.policyWord

end Inspection

end Flotilla
