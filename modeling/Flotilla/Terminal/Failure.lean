import Flotilla.Refusal
import Flotilla.Settings
import Flotilla.Text.Layout

/-!
# Failures

Why a command came to no good end, in words for the operator: what failed, and what lies behind it,
the nearest cause first. In a report the causes are indented, and numbered if there are several.
-/

namespace Flotilla

/-- Why a command failed. -/
structure Failure where
  message : String
  causes : List String
  deriving DecidableEq, Repr

namespace Failure

def plain (message : String) : Failure :=
  ⟨message, []⟩

def ofRefusal (r : Refusal) : Failure :=
  match r with
  | .unreachable _ fault => ⟨r.message, [fault.message]⟩
  | .invalid _ | .unmet _ => ⟨r.message, []⟩

def ofSettings (e : Settings.Error) : Failure :=
  ⟨"Failed to load configuration", e.message :: e.causes⟩

/-- A text with `lead` before its first line and blanks of the same width before the others. -/
def hang (lead text : String) : String :=
  lead ++ Text.replace "\n" ("\n" ++ Text.repeated lead.length ' ') text

def numbered : Nat → List String → List String
  | _, [] => []
  | n, cause :: rest =>
    let number := Text.decimal n
    hang (Text.repeated (5 - number.length) ' ' ++ number ++ ": ") cause :: numbered (n + 1) rest

def causeLines : List String → List String
  | [] => []
  | [cause] => ["", "Caused by:", hang "    " cause]
  | causes => "" :: "Caused by:" :: numbered 0 causes

def report (f : Failure) : String :=
  Text.join "\n" (("Error: " ++ f.message) :: causeLines f.causes) ++ "\n"

end Failure

end Flotilla
