import Flotilla.Node
import Flotilla.Plan
import Flotilla.Snapshot

/-!
# Remote Calls

Everything that is ever asked of the control plane, with the answer that each call gets when it
succeeds.
-/

namespace Flotilla

/-- A call to the control plane. -/
inductive Call where
  /-- The nodes of the registry. -/
  | nodes
  /-- The containers of a node, running or not. -/
  | list (node : String)
  | inspect (node id : String)
  | start (node id : String)
  | stop (node id : String)
  /-- Remove a container, even if it is running. -/
  | delete (node id : String)
  /-- Create a container and start it. -/
  | create (node : String) (plan : Plan)
  deriving DecidableEq, Repr

namespace Call

abbrev Answer : Call → Type
  | nodes => List Node
  | list _ => List Container
  | inspect _ _ => Snapshot
  | _ => Unit

/-- What a call brings back: a fault or the answer. -/
abbrev Reply (c : Call) : Type :=
  Except Fault c.Answer

def word : Call → String
  | nodes => "nodes"
  | list _ => "list"
  | inspect _ _ => "inspect"
  | start _ _ => "start"
  | stop _ _ => "stop"
  | delete _ _ => "delete"
  | create _ _ => "create"

/-- The node that a call concerns; empty for the registry. -/
def node : Call → String
  | nodes => ""
  | list node | inspect node _ | start node _ | stop node _ | delete node _ | create node _ => node

/-- What a call concerns on its node: the id of a container, the name of a planned one, or
nothing. -/
def subject : Call → String
  | nodes | list _ => ""
  | inspect _ id | start _ id | stop _ id | delete _ id => id
  | create _ plan => plan.name

end Call

end Flotilla
