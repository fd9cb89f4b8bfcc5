import Flotilla.Fault
import Flotilla.Match

/-!
# Refusals

Why a whole operation was aborted: a node did not answer, the input was invalid, or something
that the operation needs was not given. A batch that has begun is never aborted; failures of its
items are entries of the ledger.
-/

namespace Flotilla

/-- Input that no remote call is made for. -/
inductive Invalid where
  | imageRequired
  | portMapping (line : String)
  | unknownAction (word : String)
  | duplicateMatch (key : MatchKey)
  deriving DecidableEq, Repr

/-- Something that an operation needs and that was not given. -/
inductive Unmet where
  | noNodes
  | noMatches
  | noContainers
  | endpointsMissing
  | endpointsEqual
  | notConfirmed
  | nodeNotFound (id : String)
  | nodeNotConnected (name : String)
  deriving DecidableEq, Repr

/-- Why an operation was aborted. -/
inductive Refusal where
  | unreachable (node : String) (fault : Fault)
  | invalid (cause : Invalid)
  | unmet (cause : Unmet)
  deriving DecidableEq, Repr

def Invalid.message : Invalid → String
  | imageRequired => "image required"
  | portMapping line => "invalid port mapping '" ++ line ++ "', expected host:container"
  | unknownAction word => "unknown action '" ++ word ++ "'"
  | duplicateMatch key => "duplicate match " ++ key.shown

def Unmet.message : Unmet → String
  | noNodes => "no nodes selected"
  | noMatches => "no matches to run against"
  | noContainers => "no containers to migrate"
  | endpointsMissing => "source and target nodes are required"
  | endpointsEqual => "source and target must be different nodes"
  | notConfirmed => "migration not confirmed"
  | nodeNotFound id => "node " ++ id ++ " not found"
  | nodeNotConnected name => "node " ++ name ++ " is not connected"

def Refusal.message : Refusal → String
  | unreachable node fault => "Node " ++ node ++ " unreachable: " ++ fault.message
  | invalid cause => "Validation failed: " ++ cause.message
  | unmet cause => "Precondition failed: " ++ cause.message

end Flotilla
