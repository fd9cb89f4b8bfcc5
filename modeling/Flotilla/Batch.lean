import Flotilla.Distinct
import Flotilla.Ledger
import Flotilla.Planning

/-!
# Bulk Actions

One action over the matches of a scan, one match after the other in the given order. An item that
fails is recorded and never aborts the rest. Before each item the batch looks whether it was
cancelled; an item that has begun runs to its end.

A redeployment inspects, stops, deletes and creates. It is no transaction: when the container was
deleted and cannot be created anew, it is gone, and the entry's stage says so. A container that
cannot be stopped is deleted all the same.
-/

namespace Flotilla

/-- What is done to every match of a batch. -/
inductive Action where
  | start
  | stop
  | delete
  | redeploy
  deriving DecidableEq, Repr, Inhabited

namespace Action

def word : Action → String
  | start => "start"
  | stop => "stop"
  | delete => "delete"
  | redeploy => "redeploy"

def all : List Action :=
  [start, stop, delete, redeploy]

def isDestructive : Action → Bool
  | delete | redeploy => true
  | start | stop => false

/-- The action that an operator names, in any case and with blanks around; `rm` is another word
for deletion. -/
def ofText (s : String) : Except Refusal Action :=
  let word := Text.lowercase (Text.trim s)
  if word = "rm" then .ok delete
  else match all.find? (·.word = word) with
    | some action => .ok action
    | none => .error (.invalid (.unknownAction word))

def ofJson? (j : Json) : Option Action :=
  (Json.bareCase? j).bind fun s => all.find? (·.word = s)

end Action

/-- A batch to run. -/
structure Batch where
  items : List Match
  action : Action
  /-- Used by a redeployment only; nothing is changed where there are none. -/
  overrides : Option Overrides
  deriving DecidableEq, Repr

/-- The end of one item: the furthest stage and a message. -/
structure Outcome where
  stage : Stage
  message : String
  deriving DecidableEq, Repr

/-- The ledger entry of an outcome; only a completed item is a success. -/
def Outcome.entry (o : Outcome) (key : MatchKey) (nodeName : String) (container : Container) :
    Entry :=
  .of (o.stage = .completed) key nodeName container o.message o.stage

namespace Batch

/-- An action that is ready to be done: the overrides of a redeployment have been read. -/
inductive Job where
  | start
  | stop
  | delete
  | redeploy (changes : Changes)
  deriving DecidableEq, Repr

def simpleOutcome {α : Type} (message : String) : Except Fault α → Outcome
  | .ok _ => ⟨.completed, message⟩
  | .error fault => ⟨.pending, fault.message⟩

/-- The message of an item that could not be planned. -/
def planFailure : Refusal → String
  | .unreachable _ fault => fault.message
  | refusal => refusal.message

def recreated (plan : Plan) : String :=
  if plan.name = "" then "recreated" else "recreated as " ++ plan.name

/-- Stop, delete and create one container. -/
def redeploy (item : Match) (changes : Changes) : Remote Outcome := do
  match ← planChanges item changes with
  | .error refusal => return ⟨.pending, planFailure refusal⟩
  | .ok plan =>
    -- A stop that fails is remembered only in case that the deletion fails too.
    let stage := match ← Remote.call (.stop item.nodeId item.container.id) with
      | .ok _ => .sourceStopped
      | .error _ => .planned
    match ← Remote.call (.delete item.nodeId item.container.id) with
    | .error fault => return ⟨stage, fault.message⟩
    | .ok _ =>
      match ← Remote.call (.create item.nodeId plan) with
      -- Nothing brings the container back.
      | .error fault =>
        return ⟨.sourceRemoved, "removed but not recreated: " ++ fault.message⟩
      | .ok _ => return ⟨.completed, recreated plan⟩

def perform (job : Job) (item : Match) : Remote Outcome :=
  match job with
  | .start => return simpleOutcome "started" (← Remote.call (.start item.nodeId item.container.id))
  | .stop => return simpleOutcome "stopped" (← Remote.call (.stop item.nodeId item.container.id))
  | .delete =>
    return simpleOutcome "deleted" (← Remote.call (.delete item.nodeId item.container.id))
  | .redeploy changes => redeploy item changes

/-- Do a job to every match, as long as the batch is not cancelled. -/
def process (job : Job) : List Match → Ledger → Remote Ledger
  | [], ledger => return ledger
  | item :: rest, ledger => do
    if ← Remote.cancelled then
      return ledger.cancel
    else
      let outcome ← perform job item
      process job rest (ledger.push (outcome.entry item.key item.nodeName item.container))

/-- The job of a batch, or why the batch is refused. -/
def job (b : Batch) : Except Refusal Job :=
  if b.items.isEmpty then .error (.unmet .noMatches)
  -- The overrides are read last, and by a redeployment only.
  else match firstRepeated? Match.key b.items with
    | some item => .error (.invalid (.duplicateMatch item.key))
    | none =>
      match b.action with
      | .start => .ok .start
      | .stop => .ok .stop
      | .delete => .ok .delete
      | .redeploy => (b.overrides.getD .keep).read.map .redeploy

/-- Run a batch: one entry for every match that was attempted, and one refresh at the end. -/
def run (b : Batch) : Remote (Except Refusal Ledger) :=
  match b.job with
  | .error e => return .error e
  | .ok job => do
    let ledger ← process job b.items (Ledger.start (← Remote.clock))
    let ledger := ledger.finish (← Remote.clock)
    Remote.refresh
    return .ok ledger

end Batch

end Flotilla
