import Flotilla.CommandLine.Command
import Flotilla.CommandLine.Display
import Flotilla.Json.Writer
import Flotilla.Scan
import Flotilla.Terminal.Basic
import Flotilla.Terminal.Failure
import Flotilla.Text.Quoted

/-!
# Performing Commands

What each command does at a terminal. A command that changes anything shows first what it is
about, and asks the operator unless he agreed beforehand. It ends well only if every item of its
batch did.
-/

namespace Flotilla.CommandLine

open Flotilla.Terminal

abbrev Ending := Except Failure Unit

/-- Run a remote operation; if it is aborted, so is the command. -/
def proceed {α : Type} (p : Remote (Except Refusal α)) (next : α → Terminal Ending) :
    Terminal Ending := do
  match ← Terminal.remote p with
  | .error refusal => return .error (.ofRefusal refusal)
  | .ok a => next a

def showing (lines : List String) : Terminal Ending := do
  Terminal.printLines lines
  return .ok ()

def isAgreement (answer : String) : Bool :=
  let word := Text.lowercase (Text.trim answer)
  word = "y" || word = "yes"

def confirm (p : Palette) (question : String) : Terminal Bool := do
  Terminal.print (p.bold .white (question ++ " (y/n):") ++ " ")
  return isAgreement (← Terminal.readLine)

/-- A batch ends well if all of its items were attempted and did. -/
def ledgerEnding (l : Ledger) : Ending :=
  if l.hasFailures then .error (.plain l.summary)
  else if l.cancelled then
    .error (.plain ("cancelled after " ++ Text.decimal l.entries.length ++ " items"))
  else .ok ()

def conclude (p : Palette) (l : Ledger) : Terminal Ending := do
  Terminal.printLines (ledgerLines p l)
  return ledgerEnding l

/-- Go on if the operator agreed beforehand or agrees now; else say that it is over. -/
def ifAgreed (p : Palette) (agreed : Bool) (question refusal : String)
    (next : Terminal Ending) : Terminal Ending := do
  if agreed then next
  else if ← confirm p question then next
  else showing ["", p.paint .yellow refusal, ""]

/-! ## Nodes and counts -/

def performNodes (p : Palette) (asJson : Bool) : Terminal Ending :=
  proceed listNodes fun nodes =>
    if asJson then showing [(Json.arr (nodes.map Node.toJson)).pretty]
    else showing (heading p "Nodes" ++ nodeTable p nodes)

/-- Count the containers that a migration from a node would copy. -/
def performCount (p : Palette) (node : String) : Terminal Ending :=
  proceed (countContainers node) fun n =>
    showing [pointed p (p.bold .white (Text.decimal n) ++ " containers on " ++
      p.paint .cyan node)]

/-! ## Scans -/

def scanLines (p : Palette) (nodes : Nat) (filter : String) : List String :=
  heading p "Container Scan" ++
    [pointed p ("Scanning " ++ Text.decimal nodes ++ " nodes for " ++
      Text.quoted (Text.trim filter)), ""]

def failureRow (p : Palette) (f : ScanFailure) : String :=
  row [p.paint .red "✗", p.paint .cyan f.nodeName, "(" ++ f.nodeId ++ "): " ++ f.fault.message]

/-- Show the report of a best-effort scan of a number of nodes. -/
def showReport (p : Palette) (nodes : Nat) (r : ScanReport) : Terminal Ending := do
  Terminal.printLines (matchTable p r.found ++ r.failures.map (failureRow p))
  if r.isComplete then return .ok ()
  else
    Terminal.printLine ""
    return .error (.plain (Text.decimal r.failures.length ++ " of " ++ Text.decimal nodes ++
      " nodes could not be scanned"))

def performScan (p : Palette) (target : Target) (bestEffort : Bool) : Terminal Ending :=
  proceed (selectNodes target.selection) fun nodes => do
    Terminal.printLines (scanLines p nodes.length target.filter)
    if bestEffort then
      proceed (scanBestEffort nodes target.filter) (showReport p nodes.length)
    else
      proceed (scan nodes target.filter) fun items => showing (matchTable p items)

/-! ## Batches -/

/-- The question before an action over a number of containers. -/
def bulkQuestion (action : Action) (count : Nat) : String :=
  action.word ++ " " ++ Text.decimal count ++ " containers?" ++
    if action.isDestructive then " This cannot be undone." else ""

def runBatch (p : Palette) (o : BulkOrder) (items : List Match) : Terminal Ending := do
  if !o.agreed then Terminal.printLine ""
  proceed (Batch.run ⟨items, o.action, o.overrides⟩) (conclude p)

/-- Scan, and run an action over the matches. -/
def performRun (p : Palette) (o : BulkOrder) : Terminal Ending :=
  proceed (selectNodes o.target.selection) fun nodes =>
    proceed (scan nodes o.target.filter) fun items => do
      Terminal.printLines (heading p ("Bulk " ++ o.action.word) ++ matchTable p items)
      if items.isEmpty then return .ok ()
      else
        ifAgreed p o.agreed (bulkQuestion o.action items.length) "Cancelled."
          (runBatch p o items)

/-! ## Migrations -/

def migrationTitle (source target : String) (keepSource : Bool) : String :=
  (if keepSource then "Copy" else "Move") ++ " containers " ++ source ++ " → " ++ target

/-- What is said before a migration of a number of containers. -/
def previewLines (p : Palette) (count : Nat) (keepSource : Bool) : List String :=
  [pointed p (p.bold .white (Text.decimal count) ++ " containers on source node")] ++
    (if keepSource then []
    else
      [p.paint .yellow "Each source container is removed once its copy exists.",
        p.paint .yellow "If a removal fails both copies are left running."]) ++
    [""]

def performMigrate (p : Palette) (source target : String) (keepSource agreed : Bool) :
    Terminal Ending := do
  Terminal.printLines (heading p (migrationTitle source target keepSource))
  proceed (countContainers source) fun count => do
    Terminal.printLines (previewLines p count keepSource)
    ifAgreed p agreed "Are you sure you want to continue?" "Migration cancelled." do
      Terminal.printLine ""
      proceed (Migration.run ⟨source, target, keepSource, true⟩) (conclude p)

/-! ## The whole -/

def perform (p : Palette) : Command → Terminal Ending
  | .nodes asJson => performNodes p asJson
  | .scan target bestEffort => performScan p target bestEffort
  | .run order => performRun p order
  | .migrate source target keepSource agreed => performMigrate p source target keepSource agreed
  | .count node => performCount p node

end Flotilla.CommandLine
