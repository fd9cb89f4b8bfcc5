import Flotilla.Match
import Flotilla.Text.Number
import Flotilla.Time.Rfc3339

/-!
# Ledgers

The outcomes of the items of one batch, in the order in which the items were attempted. Entries
are added and read, never changed or removed.
-/

namespace Flotilla

/-- The furthest step that an item reached. -/
inductive Stage where
  | pending
  | planned
  | sourceStopped
  | sourceRemoved
  | targetCreated
  | completed
  deriving DecidableEq, Repr, Inhabited

namespace Stage

def word : Stage → String
  | pending => "pending"
  | planned => "planned"
  | sourceStopped => "source_stopped"
  | sourceRemoved => "source_removed"
  | targetCreated => "target_created"
  | completed => "completed"

def all : List Stage :=
  [pending, planned, sourceStopped, sourceRemoved, targetCreated, completed]

def ofJson? (j : Json) : Option Stage :=
  (Json.bareCase? j).bind fun s => all.find? (·.word = s)

def toJson (s : Stage) : Json :=
  .str s.word

end Stage

/-- The outcome of one item. -/
structure Entry where
  key : MatchKey
  ok : Bool
  nodeName : String
  /-- The short id of the container. -/
  containerId : String
  containerName : String
  message : String
  stage : Stage
  deriving DecidableEq, Repr, Inhabited

namespace Entry

/-- The outcome of an item that concerned a container. -/
def of (ok : Bool) (key : MatchKey) (nodeName : String) (container : Container)
    (message : String) (stage : Stage) : Entry :=
  ⟨key, ok, nodeName, container.shortId, container.primaryName, message, stage⟩

def fields : List Json.Field :=
  [.required "key", .required "ok", .required "node_name", .required "container_id",
    .required "container_name", .required "message", .required "stage"]

def ofJson? (j : Json) : Option Entry :=
  match Json.record? fields j with
  | some [key, ok, nodeName, containerId, containerName, message, stage] => do
    return {
      key := ← Json.need MatchKey.ofJson? key
      ok := ← Json.need Json.bool? ok
      nodeName := ← Json.need Json.text? nodeName
      containerId := ← Json.need Json.text? containerId
      containerName := ← Json.need Json.text? containerName
      message := ← Json.need Json.text? message
      stage := ← Json.need Stage.ofJson? stage }
  | _ => none

def toJson (e : Entry) : Json :=
  .object [("key", e.key.toJson), ("ok", .bool e.ok), ("node_name", .str e.nodeName),
    ("container_id", .str e.containerId), ("container_name", .str e.containerName),
    ("message", .str e.message), ("stage", e.stage.toJson)]

end Entry

/-- The outcomes of a batch. -/
structure Ledger where
  entries : List Entry
  startedAt : Instant
  finishedAt : Option Instant
  cancelled : Bool
  deriving DecidableEq, Repr, Inhabited

namespace Ledger

def start (now : Instant) : Ledger :=
  ⟨[], now, none, false⟩

def push (l : Ledger) (e : Entry) : Ledger :=
  { l with entries := l.entries ++ [e] }

def cancel (l : Ledger) : Ledger :=
  { l with cancelled := true }

def finish (l : Ledger) (now : Instant) : Ledger :=
  { l with finishedAt := some now }

def failed (l : Ledger) : Nat :=
  l.entries.countP (!·.ok)

def succeeded (l : Ledger) : Nat :=
  l.entries.countP (·.ok)

def hasFailures (l : Ledger) : Bool :=
  l.entries.any (!·.ok)

def summary (l : Ledger) : String :=
  let total := Text.decimal l.entries.length
  (if l.failed = 0 then "all " ++ total ++ " succeeded"
    else Text.decimal l.failed ++ " of " ++ total ++ " failed") ++
    if l.cancelled then " (cancelled)" else ""

/-! ## JSON form -/

def fields : List Json.Field :=
  [.required "entries", .required "started_at", .nullable "finished_at", .required "cancelled"]

def instantOfJson? : Json → Option Instant
  | .str s => Instant.parse? s
  | _ => none

def ofJson? (j : Json) : Option Ledger :=
  match Json.record? fields j with
  | some [entries, startedAt, finishedAt, cancelled] => do
    return {
      entries := ← Json.need (Json.list? Entry.ofJson?) entries
      startedAt := ← Json.need instantOfJson? startedAt
      finishedAt := ← Json.maybe instantOfJson? finishedAt
      cancelled := ← Json.need Json.bool? cancelled }
  | _ => none

def toJson (l : Ledger) : Json :=
  .object [("entries", .arr (l.entries.map Entry.toJson)),
    ("started_at", .str l.startedAt.render),
    ("finished_at", .strOrNull (l.finishedAt.map Instant.render)),
    ("cancelled", .bool l.cancelled)]

end Ledger

end Flotilla
