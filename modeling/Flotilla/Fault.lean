import Flotilla.Text.Blank
import Flotilla.Text.Lowercase
import Flotilla.Text.Number
import Flotilla.Text.Search

/-!
# Faults

A remote call that failed. Its kind comes from the status of the response; where the status says
nothing, from words in the message, because nodes report most failures under one general status.
-/

namespace Flotilla

/-- What went wrong with a call. -/
inductive Fault.Kind where
  | notFound
  | conflict
  | unauthorized
  | unknown
  deriving DecidableEq, Repr, Inhabited

/-- A failed call: its kind, the status of the response if there was one, and the message. -/
structure Fault where
  kind : Fault.Kind
  status : Option Nat
  message : String
  deriving DecidableEq, Repr, Inhabited

namespace Fault

def Kind.ofMessage (message : String) : Kind :=
  -- The order matters: a message may have words of several kinds.
  let low := Text.lowercase message
  if Text.contains low "already in use" || Text.contains low "conflict" then .conflict
  else if Text.contains low "no such container" then .notFound
  else .unknown

/-- The kind of a failure with a status, if there was a response, and a message. -/
def Kind.classify (status : Option Nat) (message : String) : Kind :=
  match status with
  | some 404 => .notFound
  | some 409 => .conflict
  | some 401 | some 403 => .unauthorized
  | _ => Kind.ofMessage message

/-- A response that was no success. Its body is the message, unless it is blank. -/
def ofResponse (status : Nat) (body : String) : Fault :=
  let message := (Text.nonBlank? body).getD ("Request failed: " ++ Text.decimal status)
  ⟨Kind.classify (some status) message, some status, message⟩

def transport (message : String) : Fault :=
  ⟨Kind.classify none message, none, message⟩

/-- Whether a container could not be created because its name is taken. -/
def isNameConflict (f : Fault) : Bool :=
  f.kind = .conflict

end Fault

end Flotilla
