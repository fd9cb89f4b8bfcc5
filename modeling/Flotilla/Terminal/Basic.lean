import Flotilla.Remote.World

/-!
# Programs at a Terminal

A terminal program makes remote operations, prints text and reads lines from an operator. Like a
remote program it is a tree, and a terminal answers it: the remote operations by a world, the
lines from a text that was typed before.
-/

namespace Flotilla

/-- An operation of a terminal program. -/
inductive Terminal.Op where
  | remote (op : Remote.Op)
  | print (text : String)
  /-- Read a line with its line feed; at the end of the input the line is empty. -/
  | readLine

abbrev Terminal.Op.Reply : Terminal.Op → Type
  | remote op => op.Reply
  | print _ => Unit
  | readLine => String

abbrev Terminal.interface : Interface :=
  ⟨Terminal.Op, Terminal.Op.Reply⟩

abbrev Terminal (α : Type) : Type :=
  Program Terminal.interface α

namespace Terminal

def remote {α : Type} (p : Remote α) : Terminal α :=
  p.expand (J := interface) fun op => Program.request (I := interface) (.remote op)

def print (text : String) : Terminal Unit :=
  Program.request (I := interface) (.print text)

def printLine (text : String) : Terminal Unit :=
  print (text ++ "\n")

def printLines : List String → Terminal Unit
  | [] => return ()
  | line :: rest => do
    printLine line
    printLines rest

def readLine : Terminal String :=
  Program.request (I := interface) .readLine

/-! ## Running -/

/-- A terminal in use: what the world has come to, what was printed, and what is still to be
read. -/
structure State (σ : Type) where
  run : Run σ
  printed : String
  input : List Char

/-- The first line of a list of characters with its line feed, and the rest. -/
def takeLine : List Char → List Char × List Char
  | [] => ([], [])
  | c :: rest =>
    if c = '\n' then ([c], rest)
    else
      let (line, rest) := takeLine rest
      (c :: line, rest)

def answer {σ : Type} (w : World σ) : (op : Op) → State σ → op.Reply × State σ
  | .remote op, s => ((w.answer op s.run).1, { s with run := (w.answer op s.run).2 })
  | .print text, s => ((), { s with printed := s.printed ++ text })
  | .readLine, s => (String.ofList (takeLine s.input).1, { s with input := (takeLine s.input).2 })

/-- Run a program at a terminal with a text that was typed before. -/
def run {σ α : Type} (w : World σ) (p : Terminal α) (s : σ) (input : String) : α × State σ :=
  Program.run (I := interface) (answer w) p ⟨⟨s, []⟩, "", input.toList⟩

end Terminal

end Flotilla
