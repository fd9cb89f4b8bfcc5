import Flotilla.Text.Blank
import Flotilla.Text.Number
import Flotilla.Time.Instant

/-!
# Instants as Text

Written form: the calendar day, the letter `T`, the time of day in UTC and the letter `Z`, with
no, three, six or nine digits of a fraction, the fewest that lose nothing. A year outside 0 to
9999 carries a sign.

Read forms: the written one, and relaxed ones. Month, day, hour, minute and second may have one
digit; blanks may stand before a number, before a separator and before the offset; a blank may
stand for the `T`; the offset is `Z`, `UTC`, or a sign with hours and minutes; a second 60 is a
leap second; digits of the fraction after the ninth are passed over. Both the day that is written
and the day in UTC have to be days of the calendar.
-/

namespace Flotilla.Instant

open Text

/-! ## Writing -/

def padded (width n : Nat) : String :=
  let digits := decimal n
  String.ofList (List.replicate (width - digits.length) '0') ++ digits

def yearText (year : Int) : String :=
  if 0 ≤ year ∧ year ≤ 9999 then padded 4 year.toNat
  else (if year < 0 then "-" else "+") ++ padded 4 year.natAbs

/-- The fraction of a second with the fewest groups of three digits. -/
def fractionText (nanos : Nat) : String :=
  if nanos = 0 then ""
  else if nanos % 1000000 = 0 then "." ++ padded 3 (nanos / 1000000)
  else if nanos % 1000 = 0 then "." ++ padded 6 (nanos / 1000)
  else "." ++ padded 9 nanos

def render (t : Instant) : String :=
  let date := t.date
  let second := (t.seconds % 86400).toNat
  let leap := if t.nanos < 1000000000 then 0 else 1
  yearText date.year ++ "-" ++ padded 2 date.month ++ "-" ++ padded 2 date.day ++ "T" ++
    padded 2 (second / 3600) ++ ":" ++ padded 2 (second / 60 % 60) ++ ":" ++
    padded 2 (second % 60 + leap) ++ fractionText (t.nanos % 1000000000) ++ "Z"

/-! ## Reading -/

def isDigitChar (c : Char) : Bool :=
  (digitValue? c).isSome

/-- Between one and `width` digits, after blanks. -/
def number? (width : Nat) (cs : List Char) : Option (Nat × List Char) := do
  let cs := trimLeft cs
  let digits := (cs.take width).takeWhile isDigitChar
  guard (!digits.isEmpty)
  return (← digitsValue? 0 digits, cs.drop digits.length)

/-- A year: up to four digits, or a sign and any number of digits, after blanks. -/
def year? (cs : List Char) : Option (Int × List Char) :=
  match trimLeft cs with
  | '-' :: rest => signed rest fun n => -(n : Int)
  | '+' :: rest => signed rest fun n => (n : Int)
  | cs => (number? 4 cs).map fun (n, rest) => ((n : Int), rest)
where
  /-- Any number of digits, right here. -/
  signed (cs : List Char) (f : Nat → Int) : Option (Int × List Char) := do
    guard (cs.head?.any isDigitChar)
    let n ← digitsValue? 0 (cs.takeWhile isDigitChar)
    return (f n, cs.dropWhile isDigitChar)

/-- A separator, after blanks. -/
def separator? (c : Char) (cs : List Char) : Option (List Char) :=
  match trimLeft cs with
  | d :: rest => if d = c then some rest else none
  | [] => none

/-- The nanoseconds of a fraction, if one is there. -/
def fraction? : List Char → Option (Nat × List Char)
  | '.' :: rest => do
    let digits := rest.takeWhile isDigitChar
    guard (!digits.isEmpty)
    let kept := digits.take 9
    let n ← digitsValue? 0 kept
    return (n * Nat.pow 10 (9 - kept.length), rest.dropWhile isDigitChar)
  | cs => some (0, cs)

def twoDigits? : List Char → Option (Nat × Nat × List Char)
  | a :: b :: rest => do return (← digitValue? a, ← digitValue? b, rest)
  | _ => none

def offset? (cs : List Char) : Option (Int × List Char) :=
  match cs with
  | 'Z' :: rest | 'z' :: rest => some (0, rest)
  | '+' :: rest => signed rest fun n => (n : Int)
  | '-' :: rest | '−' :: rest => signed rest fun n => -(n : Int)
  | u :: t :: c :: rest =>
    if [u, t, c].map Char.toUpper = ['U', 'T', 'C'] then some (0, rest) else none
  | _ => none
where
  /-- Two digits of hours and two of minutes, with colons and blanks between them. -/
  signed (cs : List Char) (f : Nat → Int) : Option (Int × List Char) := do
    let (h₁, h₂, rest) ← twoDigits? cs
    let (m₁, m₂, rest) ← twoDigits? (rest.dropWhile fun c => c = ':' || isBlank c)
    guard (m₁ < 6)
    let seconds := (10 * h₁ + h₂) * 3600 + (10 * m₁ + m₂) * 60
    guard (seconds < 86400)
    return (f seconds, rest)

/-- A day, as year, month and day. -/
def day? (cs : List Char) : Option (Date × List Char) := do
  let (year, cs) ← year? cs
  let cs ← separator? '-' cs
  let (month, cs) ← number? 2 cs
  let cs ← separator? '-' cs
  let (day, cs) ← number? 2 cs
  return (⟨year, month, day⟩, cs)

/-- The mark between the day and the time of day. -/
def mark? : List Char → Option (List Char)
  | 'T' :: rest | 't' :: rest | ' ' :: rest => some rest
  | _ => none

/-- A time of day, as hour, minute and second. -/
def clock? (cs : List Char) : Option ((Nat × Nat × Nat) × List Char) := do
  let (hour, cs) ← number? 2 cs
  let cs ← separator? ':' cs
  let (minute, cs) ← number? 2 cs
  let cs ← separator? ':' cs
  let (second, cs) ← number? 2 cs
  return ((hour, minute, second), cs)

/-- The instant at a day and a time of day that are told with an offset, if there is one. -/
def ofWall? (date : Date) (hour minute second nanos : Nat) (offset : Int) : Option Instant := do
  guard date.isValid
  guard (hour ≤ 23 && minute ≤ 59 && second ≤ 60)
  let (second, nanos) := if second = 60 then (59, nanos + 1000000000) else (second, nanos)
  let wall : Int := date.toDays * 86400 + hour * 3600 + minute * 60 + second
  let instant : Instant := ⟨wall - offset, nanos⟩
  guard (Date.isTold instant.date.year)
  return instant

/-- The instant that a text writes, if it writes one. -/
def parse? (text : String) : Option Instant := do
  let (date, cs) ← day? text.toList
  let cs ← mark? cs
  let ((hour, minute, second), cs) ← clock? cs
  let (nanos, cs) ← fraction? cs
  let (offset, cs) ← offset? (trimLeft cs)
  guard (trimLeft cs).isEmpty
  ofWall? date hour minute second nanos offset

end Flotilla.Instant
