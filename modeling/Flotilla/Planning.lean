import Flotilla.Plan
import Flotilla.Remote.World
import Flotilla.Text.Lines

/-!
# Planning

How a launch plan is made from what a container is now and what the operator wants changed. A
plan is complete and valid before anything is stopped, removed or created.

Every override that is blank keeps the current value. The current name is the one in the
snapshot, else the first one in the listing; the current image is the one in the snapshot, else
the one in the listing.
-/

namespace Flotilla

open Text

/-! ## Reading the overrides -/

/-- The trimmed lines of a text that are not blank. -/
def textLines (text : String) : List String :=
  ((lines text).map trim).filter (· ≠ "")

/-- The ports that a trimmed line names: the texts before the first colon and after it, up to
the next one. A line that lacks either of them names no ports. -/
def readPortLine (line : String) : Except Invalid (Option Port) :=
  -- The second part ends at the next colon, and what follows it counts for nothing.
  let parts := (split ':' line).map trim
  let host := parts.head?.getD ""
  let container := (parts.drop 1).head?.getD ""
  if host = "" ∨ container = "" then .ok none
  else match Port.number? host, Port.number? container with
    | some h, some c => .ok (some ⟨h, c⟩)
    | _, _ => .error (.portMapping line)

/-- The ports that trimmed lines name, up to the first line that is wrong. -/
def readPortLines : List String → Except Invalid (List Port)
  | [] => .ok []
  | line :: rest =>
    match readPortLine line with
    | .error e => .error e
    | .ok port =>
      match readPortLines rest with
      | .error e => .error e
      | .ok ports => .ok (port.toList ++ ports)

/-- The ports that a text names, one pair a line. -/
def readPorts (text : String) : Except Invalid (List Port) :=
  readPortLines (textLines text)

/-- The environment entries of a text, one a line, as they are. -/
def readEnv (text : String) : List String :=
  textLines text

/-- Overrides after reading: what is to be changed, and to what. -/
structure Changes where
  image : Option String
  nameTemplate : Option String
  env : Option (List String)
  ports : Option (List Port)
  autoRestart : Bool
  deriving DecidableEq, Repr

/-- Read the overrides; only the text of the ports can be wrong. -/
def Overrides.read (o : Overrides) : Except Refusal Changes :=
  let changes (ports : Option (List Port)) : Changes :=
    { image := o.image.bind nonBlank?
      nameTemplate := o.nameTemplate.bind nonBlank?
      env := (o.envText.bind nonBlank?).map readEnv
      ports := ports
      autoRestart := o.autoRestart }
  match o.portsText.bind nonBlank? with
  | none => .ok (changes none)
  | some text =>
    match readPorts text with
    | .ok ports => .ok (changes (some ports))
    | .error e => .error (.invalid e)

/-! ## Names -/

/-- The name that a template gives: the token of the node stands for one placeholder, the first
name of the container for the other. Where the container has no name the fallback stands in, and
a fixed word where there is none either. A blank template gives the fallback. -/
def resolveName (template : Option String) (nodeToken : String) (container : Container)
    (fallback : String) : String :=
  match template.bind nonBlank? with
  | none => fallback
  | some template =>
    let name :=
      if container.primaryName ≠ "" then container.primaryName
      else if fallback ≠ "" then fallback
      else "container"
    replace "\x7bname\x7d" name (replace "\x7bnode\x7d" nodeToken template)

/-- The current name of a container; empty if it has none. -/
def currentName (container : Container) (snapshot : Snapshot) : String :=
  snapshot.canonicalName?.getD container.primaryName

/-- The current image of a container, unless both sources are blank. -/
def currentImage? (container : Container) (snapshot : Snapshot) : Option String :=
  snapshot.image? <|> nonBlank? container.image

/-! ## Plans -/

/-- The plan, unless a node would reject it. -/
def Plan.validated (p : Plan) : Except Refusal Plan :=
  p.validate.map fun _ => p

def redeployPlan (item : Match) (snapshot : Snapshot) (changes : Changes) :
    Except Refusal Plan :=
  let oldName := currentName item.container snapshot
  Plan.validated
    { image := (changes.image <|> currentImage? item.container snapshot).getD ""
      name := resolveName changes.nameTemplate item.nodeToken item.container oldName
      env := changes.env.getD snapshot.env
      ports := changes.ports.getD snapshot.ports
      autoRestart := changes.autoRestart
      restartPolicy := none }

/-- The plan that makes a container again on another node. -/
def migrationPlan (container : Container) (snapshot : Snapshot) : Except Refusal Plan :=
  Plan.validated
    { image := (currentImage? container snapshot).getD ""
      name := currentName container snapshot
      env := snapshot.env
      ports := snapshot.ports
      autoRestart := snapshot.restarts
      restartPolicy := if snapshot.restarts then some snapshot.restartPolicy else none }

/-- Inspect a matched container and plan its replacement. -/
def planChanges (item : Match) (changes : Changes) : Remote (Except Refusal Plan) := do
  match ← Remote.call (.inspect item.nodeId item.container.id) with
  | .error fault => return .error (.unreachable item.nodeName fault)
  | .ok snapshot => return redeployPlan item snapshot changes

/-- Read the overrides and plan the replacement of a matched container; overrides that are wrong
are refused before any call. -/
def planRedeploy (item : Match) (overrides : Overrides) : Remote (Except Refusal Plan) :=
  match overrides.read with
  | .error e => return .error e
  | .ok changes => planChanges item changes

end Flotilla
