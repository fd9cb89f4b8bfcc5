/-!
# Punycode

Labels of domain names outside ASCII, written in ASCII. The plain characters come first, then,
after a dash, the other ones in rising order of their values: each as its distance from the one
before, counted over all the places where it could stand, in digits of base 36 whose thresholds
follow a bias that adapts to the distances seen.
-/

namespace Flotilla.Url.Punycode

/-- The threshold of the digit at position `k`, counted in steps of 36. -/
def threshold (k bias : Nat) : Nat :=
  if k ≤ bias then 1 else if bias + 26 ≤ k then 26 else k - bias

/-- Divide until the distance is small, counting 36 for every division. -/
def shrink (delta k : Nat) : Nat × Nat :=
  if 455 < delta then shrink (delta / 35) (k + 36) else (delta, k)
termination_by delta
decreasing_by exact Nat.div_lt_self (by omega) (by omega)

/-- The bias after a distance, when a number of characters have been placed. -/
def adapt (delta placed : Nat) (isFirst : Bool) : Nat :=
  let damped := if isFirst then delta / 700 else delta / 2
  let (rest, k) := shrink (damped + damped / placed) 0
  k + 36 * rest / (rest + 38)

def digitChar (d : Nat) : Char :=
  if d < 26 then Char.ofNat ('a'.toNat + d) else Char.ofNat ('0'.toNat + d - 26)

def digitValue? (c : Char) : Option Nat :=
  if 'a' ≤ c ∧ c ≤ 'z' then some (c.toNat - 'a'.toNat)
  else if 'A' ≤ c ∧ c ≤ 'Z' then some (c.toNat - 'A'.toNat)
  else if '0' ≤ c ∧ c ≤ '9' then some (c.toNat - '0'.toNat + 26)
  else none

/-! ## Writing -/

/-- A distance as digits, from the position `k` on. -/
def writeDistance (q k bias : Nat) : List Char :=
  let t := threshold k bias
  if h : t ≤ q then
    digitChar (t + (q - t) % (36 - t)) :: writeDistance ((q - t) / (36 - t)) (k + 36) bias
  else [digitChar q]
termination_by q
decreasing_by
  -- The threshold is at least one, so the quotient is smaller than the distance.
  have positive : 1 ≤ threshold k bias := by unfold threshold; split <;> (try split) <;> omega
  have quotient : (q - threshold k bias) / (36 - threshold k bias) ≤ q - threshold k bias :=
    Nat.div_le_self _ _
  have _ : threshold k bias ≤ q := h
  omega

/-- What writing has come to: the distance so far, the bias, the number of characters placed, and
whether one beyond the plain ones has been placed. -/
structure Writing where
  delta : Nat
  bias : Nat
  placed : Nat
  begun : Bool

/-- Pass over the label once and place the character of value `m` wherever it stands. -/
def placeValue (plain m : Nat) : Writing → List Nat → Writing × List Char
  | w, [] => (w, [])
  | w, c :: rest =>
    if c < m then placeValue plain m { w with delta := w.delta + 1 } rest
    else if c = m then
      -- The distance counts from the place of the character that was placed before.
      let written := writeDistance w.delta 36 w.bias
      let (w, more) := placeValue plain m
        ⟨0, adapt w.delta (w.placed + 1) (w.placed = plain), w.placed + 1, true⟩ rest
      (w, written ++ more)
    else placeValue plain m w rest

/-- Place the characters of all values in rising order, after the value before them. -/
def placeValues (plain : Nat) (label : List Nat) : Nat → Writing → List Nat → List Char
  | _, _, [] => []
  | n, w, m :: rest =>
    let (w, written) :=
      placeValue plain m { w with delta := w.delta + (m - n) * (w.placed + 1) } label
    written ++ placeValues plain label (m + 1) { w with delta := w.delta + 1 } rest

/-- The values outside ASCII in a label, in rising order, each once. -/
def otherValues (label : List Nat) : List Nat :=
  ((label.filter (0x80 ≤ ·)).mergeSort).eraseReps

def write (cs : List Char) : List Char :=
  let label := cs.map Char.toNat
  let plain := cs.filter (·.toNat < 0x80)
  (if plain.isEmpty then [] else plain ++ ['-']) ++
    placeValues plain.length label 0x80 ⟨0, 72, plain.length, false⟩ (otherValues label)

/-! ## Reading -/

/-- What reading has come to inside a distance: the value of the character, the place, the place
before the distance, the weight of the next digit and its position. -/
structure Reading where
  n : Nat
  i : Nat
  before : Nat
  weight : Nat
  k : Nat
  bias : Nat

/-- The label that digits write after the characters placed so far. -/
def readDistances (found : List Char) : Reading → List Char → Option (List Char)
  | r, [] => if r.k = 36 then some found else none
  | r, c :: rest => do
    let digit ← digitValue? c
    let i := r.i + digit * r.weight
    let t := threshold r.k r.bias
    if digit < t then
      -- The last digit of a distance: a character is placed.
      let size := found.length + 1
      let n := r.n + i / size
      let place := i % size
      guard (n.isValidChar)
      readDistances (found.take place ++ [Char.ofNat n] ++ found.drop place)
        ⟨n, place + 1, place + 1, 1, 36, adapt (i - r.before) size (r.before = 0)⟩ rest
    else readDistances found { r with i := i, weight := r.weight * (36 - t), k := r.k + 36 } rest

/-- The label that a text in ASCII writes, if it writes one. -/
def read? (cs : List Char) : Option (List Char) := do
  guard (cs.all (·.toNat < 0x80))
  -- The digits follow the last dash.
  let digits := (cs.reverse.takeWhile (· != '-')).reverse
  let plain := cs.take (cs.length - digits.length - 1)
  readDistances plain ⟨0x80, 0, 0, 1, 36, 72⟩ digits

end Flotilla.Url.Punycode
