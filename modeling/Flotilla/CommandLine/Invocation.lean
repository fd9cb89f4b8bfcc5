import Flotilla.CommandLine.Perform
import Flotilla.Http.Client

/-!
# Invocations

From the arguments of a command line to its end. Wrong arguments come to nothing but a word about
the usage. Otherwise the settings are loaded, and the command is performed by a client for them.
The exit status tells the three ends apart.
-/

namespace Flotilla.CommandLine

open Flotilla.Terminal

def usage : String :=
  Text.join "\n"
    ["Usage: flotilla [OPTIONS] <COMMAND>",
      "",
      "Commands:",
      "  nodes    List the nodes",
      "  scan     Find containers",
      "  run      Start, stop, delete or redeploy all containers that are found",
      "  migrate  Copy or move all containers of a node to another one",
      "  count    Count the containers that a migration would copy",
      ""]

/-- What the arguments of a command line come to in their surroundings. -/
inductive Start where
  | help
  | wrong
  | failed (failure : Failure)
  | ready (client : Http.Client) (settings : Settings) (program : Terminal Ending)

/-- Load the settings and make a client for a command. -/
def prepareOrder (s : Surroundings) (given : Given) (command : Command) : Start :=
  match Settings.load given s with
  | .error e => .failed (.ofSettings e)
  | .ok settings =>
    match Http.Client.open? settings.apiBase settings.token with
    | .error fault => .failed (.plain fault.message)
    | .ok client => .ready client settings (perform (.ofVariables s.lookup) command)

/-- Read the arguments of a command line and prepare what they ask for. -/
def prepare (s : Surroundings) (args : List String) : Start :=
  match read s.lookup args with
  | .help => .help
  | .wrong => .wrong
  | .order given command => prepareOrder s given command

/-- What is seen of an invocation: the exit status, the output, and the words about errors. -/
structure Transcript where
  exit : Nat
  output : String
  errors : String
  deriving DecidableEq, Repr

/-- The exit status of a command and the words about its failure. -/
def endingOf : Ending → Nat × String
  | .ok _ => (0, "")
  | .error failure => (1, failure.report)

/-- An invocation against the server behind a link, which is in some state before it. -/
def invoke {τ : Type} (s : Surroundings) (link : Http.Link τ) (cancelled : List Event → Bool)
    (clock : List Event → Instant) (args : List String) (input : String) (state : τ) :
    Transcript × τ :=
  match prepare s args with
  | .help => (⟨0, usage, ""⟩, state)
  | .wrong => (⟨2, "", usage⟩, state)
  | .failed failure => (⟨1, "", failure.report⟩, state)
  | .ready client _ program =>
    let (ending, finished) := Terminal.run (client.world link cancelled clock) program state input
    let (exit, errors) := endingOf ending
    (⟨exit, finished.printed, errors⟩, finished.run.state)

end Flotilla.CommandLine
