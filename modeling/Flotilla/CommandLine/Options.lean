import Flotilla.Text.Search

/-!
# Options of a Command Line

How arguments are read as options. An option has a long name after two dashes and perhaps a letter
after one. The value of an option follows an equals sign, or the letter, or is the next argument;
in the last case it may not begin with a dash, unless it is nothing else. Letters may be joined.
Two dashes alone end the command line. An option may be repeated only if it is declared so.

Arguments are judged in the order in which they stand: the first wrong one, or the first call for
help, decides, whatever follows it.
-/

namespace Flotilla.CommandLine

/-- What an option stands for. -/
inductive Arity where
  /-- The option asks for help. -/
  | help
  /-- The option is given or not. -/
  | flag
  /-- The option has a value. -/
  | single
  /-- The option has a value each time that it is given. -/
  | repeatable
  deriving DecidableEq, Repr

/-- The declaration of an option. -/
structure Switch where
  name : String
  letter : Option Char
  arity : Arity
  /-- Which values the option takes. -/
  takes : String → Bool

def Switch.flag (name : String) (letter : Option Char) : Switch :=
  ⟨name, letter, .flag, fun _ => true⟩

def Switch.single (name : String) (letter : Option Char) : Switch :=
  ⟨name, letter, .single, fun _ => true⟩

/-- An option with any value each time that it is given. -/
def Switch.repeatable (name : String) : Switch :=
  ⟨name, none, .repeatable, fun _ => true⟩

def Switch.help (name : String) (letter : Option Char) : Switch :=
  ⟨name, letter, .help, fun _ => true⟩

/-- An option that was given: its name, and its value unless it is a flag. -/
structure Mention where
  name : String
  value : String
  deriving DecidableEq, Repr

/-- What arguments come to: a call for help, a wrong use, or the options given, in order, and the
arguments after them. -/
inductive Reading where
  | help
  | wrong
  | options (given : List Mention) (rest : List String)
  deriving DecidableEq, Repr

/-- One step of reading an argument. -/
inductive Step where
  | help
  | wrong
  /-- More options given. -/
  | given (found : List Mention)
  /-- More options given, the last of which takes its value from the next argument. -/
  | open (found : List Mention) (last : Switch)

def named? (switches : List Switch) (name : String) : Option Switch :=
  switches.find? (·.name = name)

def lettered? (switches : List Switch) (letter : Char) : Option Switch :=
  switches.find? (·.letter = some letter)

def isFree (found : List Mention) (s : Switch) : Bool :=
  s.arity = .repeatable || found.all (·.name ≠ s.name)

/-- Whether an option may be given once more with a value. -/
def isWelcome (found : List Mention) (s : Switch) (value : String) : Bool :=
  isFree found s && s.takes value

def giveValue (found : List Mention) (s : Switch) (value : String) : Step :=
  if isWelcome found s value then .given (found ++ [⟨s.name, value⟩]) else .wrong

/-- A text up to the first equals sign, and the text after it if it is there. -/
def cutValue : List Char → List Char × Option (List Char)
  | [] => ([], none)
  | c :: rest =>
    if c = '=' then ([], some rest)
    else ((c :: (cutValue rest).1), (cutValue rest).2)

/-- A long option, from what follows the two dashes. -/
def readLong (switches : List Switch) (found : List Mention) (cs : List Char) : Step :=
  let (name, value) := cutValue cs
  match named? switches (String.ofList name) with
  | none => .wrong
  | some s =>
    match s.arity, value with
    | .help, none => .help
    | .help, some _ | .flag, some _ => .wrong
    | .flag, none => if isFree found s then .given (found ++ [⟨s.name, ""⟩]) else .wrong
    | _, none => if isFree found s then .open found s else .wrong
    | _, some value => giveValue found s (String.ofList value)

/-- Joined letters, from what follows the dash. -/
def readLetters (switches : List Switch) (found : List Mention) : List Char → Step
  | [] => .given found
  | c :: rest =>
    match lettered? switches c with
    | none => .wrong
    | some s =>
      match s.arity with
      | .help => .help
      | .flag =>
        if isFree found s then readLetters switches (found ++ [⟨s.name, ""⟩]) rest else .wrong
      | _ =>
        match rest with
        | [] => if isFree found s then .open found s else .wrong
        | '=' :: value => giveValue found s (String.ofList value)
        | value => giveValue found s (String.ofList value)

/-- Whether an argument can be the value of the option before it. -/
def isValue (arg : String) : Bool :=
  match arg.toList with
  | ['-'] => true
  | '-' :: _ => false
  | _ => true

/-- Read arguments up to the first one that is no option. -/
def readOptions (switches : List Switch) (found : List Mention) : List String → Reading
  | [] => .options found []
  | arg :: rest =>
    let step : Step := match arg.toList with
      | '-' :: '-' :: cs => readLong switches found cs
      | '-' :: cs => readLetters switches found cs
      | _ => .wrong
    if arg = "--" then (if rest.isEmpty then .options found [] else .wrong)
    else if isValue arg then .options found (arg :: rest)
    else match step, rest with
      | .help, _ => .help
      | .wrong, _ | .open _ _, [] => .wrong
      | .given found, rest => readOptions switches found rest
      | .open found s, value :: rest =>
        if isValue value && s.takes value then
          readOptions switches (found ++ [⟨s.name, value⟩]) rest
        else .wrong

/-! ## Looking up options -/

/-- All values of an option, in order. -/
def valuesOf (given : List Mention) (name : String) : List String :=
  (given.filter (·.name = name)).map (·.value)

/-- The value of an option that is given at most once. -/
def value? (given : List Mention) (name : String) : Option String :=
  (valuesOf given name).head?

def isGiven (given : List Mention) (name : String) : Bool :=
  given.any (·.name = name)

end Flotilla.CommandLine
