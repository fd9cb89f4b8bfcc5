import Flotilla.Ledger
import Flotilla.Match
import Flotilla.Node
import Flotilla.Terminal.Ink

/-!
# Display

What the operator sees: headings, the table of the nodes, the table of matches, and a ledger with
its summary. Everything is a list of lines.
-/

namespace Flotilla.CommandLine

open Flotilla.Terminal

def heading (p : Palette) (title : String) : List String :=
  let rule := p.paint .blue (Text.repeated 63 '═')
  ["", rule, p.bold .blue ("  " ++ title), rule, ""]

/-- A line of text cells with one blank between neighbours, and two before them. -/
def row (cells : List String) : String :=
  "  " ++ Text.join " " cells

def underline (width : Nat) : String :=
  "  " ++ Text.repeated width '─'

def remark (p : Palette) (text : String) : List String :=
  ["  " ++ p.paint .blue "ℹ" ++ " " ++ text, ""]

def pointed (p : Palette) (text : String) : String :=
  p.paint .blue "→" ++ " " ++ text

/-! ## Nodes -/

def nodeRow (p : Palette) (n : Node) : String :=
  row [
    p.paintColumn .cyan 20 n.displayName,
    Text.column 38 n.id,
    p.paintColumn (if n.isConnected then .green else .red) 14 n.status.word,
    Text.column 24 (if n.address = "" then "-" else n.address),
    Text.column 10 (n.version.getD "-")]

def nodeTable (p : Palette) (nodes : List Node) : List String :=
  if nodes.isEmpty then remark p "No nodes registered."
  else
    [row [p.title 20 "NAME", p.title 38 "ID", p.title 14 "STATUS", p.title 24 "ADDRESS",
        p.title 10 "VERSION"],
      underline 110] ++
    nodes.map (nodeRow p) ++
    ["",
      "  " ++ pointed p (Text.decimal (nodes.countP Node.isConnected) ++ " of " ++
        Text.decimal nodes.length ++ " connected"),
      ""]

/-! ## Matches -/

/-- The state of a container in the width of its column. -/
def stateCell (p : Palette) (state : String) : String :=
  if state = "running" then p.paintColumn .green 10 state
  else if state = "exited" ∨ state = "dead" then p.paintColumn .red 10 state
  else if state = "" then Text.column 10 "unknown"
  else p.paintColumn .yellow 10 state

def matchRow (p : Palette) (m : Match) : String :=
  row [
    p.paintColumn .cyan 16 m.nodeName,
    Text.column 14 m.container.shortId,
    Text.column 28 m.container.primaryName,
    Text.column 32 m.container.image,
    stateCell p m.container.state]

def matchTable (p : Palette) (items : List Match) : List String :=
  if items.isEmpty then remark p "No matching containers."
  else
    [row [p.title 16 "NODE", p.title 14 "ID", p.title 28 "NAME", p.title 32 "IMAGE",
        p.title 10 "STATE"],
      underline 104] ++
    items.map (matchRow p) ++ [""]

/-! ## Ledgers -/

/-- The name of an entry's container, with its id after it. -/
def entryName (e : Entry) : String :=
  if e.containerName = "" then e.containerId
  else e.containerName ++ " (" ++ e.containerId ++ ")"

def entryRow (p : Palette) (e : Entry) : String :=
  row [
    if e.ok then p.paint .green "✓" else p.paint .red "✗",
    Text.column 16 e.nodeName,
    Text.column 40 (entryName e),
    if e.ok then e.message else p.paint .red (e.message ++ " [" ++ e.stage.word ++ "]")]

def summaryRow (p : Palette) (l : Ledger) : String :=
  row [p.paint .white "Summary:",
    p.paint (if l.hasFailures || l.cancelled then .yellow else .green) l.summary]

def ledgerLines (p : Palette) (l : Ledger) : List String :=
  l.entries.map (entryRow p) ++ ["", summaryRow p l, ""]

end Flotilla.CommandLine
