/-!
# First Occurrences

A list without the elements whose key occurred before, and the first element whose key did.
-/

namespace Flotilla

variable {α κ : Type} [DecidableEq κ]

/-- The elements whose key is new, where the keys in `seen` are not. -/
def newBy (key : α → κ) (seen : List κ) : List α → List α
  | [] => []
  | a :: rest =>
    if key a ∈ seen then newBy key seen rest
    else a :: newBy key (key a :: seen) rest

/-- The first element of every key, in order. -/
def distinctBy (key : α → κ) (as : List α) : List α :=
  newBy key [] as

/-- The first element whose key is in `seen` or occurred before it. -/
def repeatedBy? (key : α → κ) (seen : List κ) : List α → Option α
  | [] => none
  | a :: rest =>
    if key a ∈ seen then some a
    else repeatedBy? key (key a :: seen) rest

/-- The first element whose key occurred before it. -/
def firstRepeated? (key : α → κ) (as : List α) : Option α :=
  repeatedBy? key [] as

end Flotilla
