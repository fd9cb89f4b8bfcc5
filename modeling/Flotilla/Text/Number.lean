/-!
# Numbers in Text

Natural numbers are written in decimal without leading zeros. They are read from ASCII digits
with an optional leading plus sign; leading zeros are allowed, anything else is not, and the
value has to stay below a bound that the caller gives.
-/

namespace Flotilla.Text

def decimal (n : Nat) : String :=
  toString n

def digitValue? (c : Char) : Option Nat :=
  if '0' ≤ c ∧ c ≤ '9' then some (c.toNat - '0'.toNat) else none

/-- The value of a list of digits read after the value `acc`. -/
def digitsValue? (acc : Nat) : List Char → Option Nat
  | [] => some acc
  | c :: rest => (digitValue? c).bind fun d => digitsValue? (10 * acc + d) rest

/-- The number that a list of characters writes, if it writes one. -/
def numberChars? : List Char → Option Nat
  | [] => none
  | '+' :: [] => none
  | '+' :: rest => digitsValue? 0 rest
  | cs => digitsValue? 0 cs

/-- The number below `bound` that a text writes, if it writes one. -/
def numberBelow? (bound : Nat) (s : String) : Option Nat :=
  (numberChars? s.toList).filter (· < bound)

end Flotilla.Text
