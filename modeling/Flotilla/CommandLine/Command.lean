import Flotilla.Batch
import Flotilla.CommandLine.Options
import Flotilla.Migration
import Flotilla.Selection
import Flotilla.Settings

/-!
# Commands

What an operator asks for: to list nodes, to scan, to run an action over the matches of a scan, to
migrate, or to count. Every command takes the options of a connection, which may come from the
environment instead, and there as they are: a variable that is set counts as given.
-/

namespace Flotilla

/-- Which nodes are scanned and what is looked for. -/
structure Target where
  nodes : List String
  /-- Disconnected nodes as well. -/
  all : Bool
  filter : String
  deriving DecidableEq, Repr, Inhabited

def Target.selection (t : Target) : Selection :=
  if !t.nodes.isEmpty then .ids t.nodes
  else if t.all then .all
  else .connected

/-- An action over the matches of a scan. The options about new containers matter to a
redeployment only. -/
structure BulkOrder where
  target : Target
  action : Action
  image : Option String
  nameTemplate : Option String
  env : List String
  ports : List String
  autoRestart : Bool
  /-- The operator is not asked. -/
  agreed : Bool
  deriving DecidableEq, Repr

namespace BulkOrder

/-- Values as lines of one text; no values are no text. -/
def textOf (values : List String) : Option String :=
  if values.isEmpty then none else some (Text.join "\n" values)

def overrides (o : BulkOrder) : Option Overrides :=
  if o.action = .redeploy then
    some {
      image := o.image
      nameTemplate := o.nameTemplate
      envText := textOf o.env
      portsText := textOf o.ports
      autoRestart := o.autoRestart }
  else none

end BulkOrder

/-- What an operator asks for. -/
inductive Command where
  | nodes (asJson : Bool)
  | scan (target : Target) (bestEffort : Bool)
  | run (order : BulkOrder)
  | migrate (source target : String) (keepSource agreed : Bool)
  | count (node : String)
  deriving DecidableEq, Repr

namespace CommandLine

/-! ## Options -/

def helpSwitch : Switch :=
  .help "help" (some 'h')

/-- The options about messages to the operator's log. They may stand before a command too. -/
def logSwitches : List Switch :=
  [.single "log-level" none, .single "log-format" none]

def isTimeout (text : String) : Bool :=
  (Text.numberBelow? Settings.numberBound text).isSome

/-- The options of a connection. The path of a directory is not empty. -/
def connectionSwitches : List Switch :=
  [.single "api-url" none, .single "token" none,
    { Switch.single "data-dir" none with takes := (· ≠ "") },
    { Switch.single "timeout" none with takes := isTimeout }]

def targetSwitches : List Switch :=
  [.repeatable "node", .flag "all" none, .single "filter" (some 'f')]

def agreeSwitch : Switch :=
  .flag "yes" (some 'y')

def isAction (text : String) : Bool :=
  (Action.ofText text).toOption.isSome

def leadingSwitches : List Switch :=
  helpSwitch :: .help "version" (some 'V') :: logSwitches

/-- The options of a command beside those of every command, if it is one. -/
def ownSwitches? : String → Option (List Switch)
  | "nodes" => some [.flag "json" none]
  | "scan" => some (.flag "best-effort" none :: targetSwitches)
  | "run" => some <|
    [{ Switch.single "action" (some 'a') with takes := isAction }, .single "image" none,
      .single "name-template" none, .repeatable "env", .repeatable "port",
      .flag "no-auto-restart" none, agreeSwitch] ++ targetSwitches
  | "migrate" => some
    [.single "from" none, .single "to" none, .flag "keep-source" none, agreeSwitch]
  | "count" => some [.single "node" none]
  | _ => none

def commonSwitches : List Switch :=
  helpSwitch :: logSwitches ++ connectionSwitches

/-! ## Values -/

/-- The connection that options and the environment describe, unless a value is wrong. -/
def connection? (lookup : String → Option String) (given : List Mention) : Option Given := do
  let apiUrl := value? given "api-url" <|> lookup Settings.urlVariable
  let token := value? given "token" <|> lookup Settings.tokenVariable
  let dataDir := value? given "data-dir" <|> lookup Settings.dataDirVariable
  guard (dataDir ≠ some "")
  let timeout ← match value? given "timeout" <|> lookup Settings.timeoutVariable with
    | none => some none
    | some text => (Text.numberBelow? Settings.numberBound text).map some
  return ⟨apiUrl, token, dataDir, timeout⟩

/-- The target that options describe. All nodes and single ones exclude each other. -/
def target? (given : List Mention) : Option Target := do
  let nodes := valuesOf given "node"
  let all := isGiven given "all"
  guard (nodes.isEmpty || !all)
  return ⟨nodes, all, (value? given "filter").getD ""⟩

def command? (name : String) (given : List Mention) : Option Command :=
  match name with
  | "nodes" => some (.nodes (isGiven given "json"))
  | "scan" => do return .scan (← target? given) (isGiven given "best-effort")
  | "run" => do
    let action ← value? given "action"
    return .run {
      target := ← target? given
      action := ← (Action.ofText action).toOption
      image := value? given "image"
      nameTemplate := value? given "name-template"
      env := valuesOf given "env"
      ports := valuesOf given "port"
      autoRestart := !isGiven given "no-auto-restart"
      agreed := isGiven given "yes" }
  | "migrate" => do
    return .migrate (← value? given "from") (← value? given "to") (isGiven given "keep-source")
      (isGiven given "yes")
  | "count" => do return .count (← value? given "node")
  | _ => none

/-! ## The whole -/

/-- What the arguments of a command line come to. -/
inductive Request where
  | help
  | wrong
  | order (connection : Given) (command : Command)
  deriving DecidableEq, Repr

/-- A call for help, from what follows its name: nothing, or one command. -/
def readHelp : List String → Request
  | [] => .help
  | [name] => if name = "help" ∨ (ownSwitches? name).isSome then .help else .wrong
  | _ => .wrong

/-- A command, from its name and what follows it. Whether options that exclude each other were
given, and whether those that a command needs were, is judged when all have been read. -/
def readCommand (lookup : String → Option String) (name : String) (args : List String) :
    Request :=
  match ownSwitches? name with
  | none => if name = "help" then readHelp args else .wrong
  | some own =>
    match readOptions (own ++ commonSwitches) [] args with
    | .help => .help
    | .wrong | .options _ (_ :: _) => .wrong
    | .options given [] =>
      match connection? lookup given, command? name given with
      | some connection, some command => .order connection command
      | _, _ => .wrong

/-- The request of a command line, in an environment. -/
def read (lookup : String → Option String) (args : List String) : Request :=
  match readOptions leadingSwitches [] args with
  | .help => .help
  | .wrong | .options _ [] => .wrong
  | .options _ (name :: rest) => readCommand lookup name rest

end CommandLine

end Flotilla
