/-!
# Internet Addresses

Addresses of four bytes and of eight sixteen-bit pieces. The former are read in all the forms that
hosts were ever written in: one to four numbers, decimal, octal or hexadecimal, the last one
filling the bytes that the others leave. The latter are written with their longest run of zero
pieces, two or more, left out.
-/

namespace Flotilla.Url

/-! ## Four bytes -/

/-- The value of a digit in a radix of at most sixteen. -/
def radixDigit? (radix : Nat) (c : Char) : Option Nat :=
  let value :=
    if '0' ≤ c ∧ c ≤ '9' then c.toNat - '0'.toNat
    else if 'a' ≤ c ∧ c ≤ 'f' then c.toNat - 'a'.toNat + 10
    else if 'A' ≤ c ∧ c ≤ 'F' then c.toNat - 'A'.toNat + 10
    else radix
  if value < radix then some value else none

def radixValue? (radix acc : Nat) : List Char → Option Nat
  | [] => some acc
  | c :: rest => (radixDigit? radix c).bind fun d => radixValue? radix (radix * acc + d) rest

/-- A number of an address: hexadecimal after `0x`, octal after `0`, else decimal. -/
def addressNumber? : List Char → Option Nat
  | [] => none
  | '0' :: 'x' :: rest => radixValue? 16 0 rest
  | '0' :: 'X' :: rest => radixValue? 16 0 rest
  | '0' :: c :: rest => radixValue? 8 0 (c :: rest)
  | cs => radixValue? 10 0 cs

/-- The pieces between dots, without one empty piece at the end. -/
def addressParts (pieces : List (List Char)) : List (List Char) :=
  if pieces.length ≠ 1 ∧ pieces.getLast? = some [] then pieces.dropLast else pieces

/-- Whether a host has to be read as an address of four bytes: its last piece is a number. -/
def endsInNumber (pieces : List (List Char)) : Bool :=
  match (addressParts pieces).getLast? with
  | none | some [] => false
  | some piece =>
    piece.all (fun c => (radixDigit? 10 c).isSome) || (addressNumber? piece).isSome

/-- Numbers as the leading bytes of an address, from the weight of the first byte on. -/
def weigh (weight : Nat) : List Nat → Nat
  | [] => 0
  | n :: rest => n * weight + weigh (weight / 256) rest

/-- The address that pieces write. The last number fills the bytes that the others leave. -/
def fourBytes? (pieces : List (List Char)) : Option Nat := do
  let numbers ← (addressParts pieces).mapM addressNumber?
  guard (numbers.length ≤ 4)
  let last ← numbers.getLast?
  let others := numbers.dropLast
  guard (others.all (· ≤ 255) && last < Nat.pow 256 (4 - others.length))
  return weigh (Nat.pow 256 3) others + last

def showFourBytes (n : Nat) : String :=
  s!"{n / 0x1000000 % 256}.{n / 0x10000 % 256}.{n / 0x100 % 256}.{n % 256}"

/-! ## Eight pieces -/

def takePiece (cs : List Char) : Nat × Nat × List Char :=
  let digits := (cs.take 4).takeWhile fun c => (radixDigit? 16 c).isSome
  ((radixValue? 16 0 digits).getD 0, digits.length, cs.drop digits.length)

/-- One to three decimal digits below 256 without leading zeros. -/
def takeByte? (cs : List Char) : Option (Nat × List Char) := do
  let digits := (cs.take 4).takeWhile fun c => (radixDigit? 10 c).isSome
  guard (!digits.isEmpty && (digits.head? != some '0' || digits.length == 1))
  let n ← radixValue? 10 0 digits
  guard (n ≤ 255)
  return (n, cs.drop digits.length)

/-- Four bytes with dots between them, as the last two pieces. -/
def dottedPieces? (cs : List Char) : Option (List Nat) := do
  let (a, cs) ← takeByte? cs
  let (b, cs) ← afterDot cs
  let (c, cs) ← afterDot cs
  let (d, cs) ← afterDot cs
  guard cs.isEmpty
  return [a * 256 + b, c * 256 + d]
where
  /-- A dot and one more byte. -/
  afterDot : List Char → Option (Nat × List Char)
    | '.' :: rest => takeByte? rest
    | _ => none

/-- The pieces of an address, each step reading one of them or the gap. The first argument is the
number of pieces for which there is still room; a gap takes the room of one. The pieces before the
gap, once it was seen, are held apart from those after it. -/
def pieces? : Nat → List Nat → Option (List Nat) → List Char →
    Option (List Nat × Option (List Nat))
  | _, found, gap, [] => some (found, gap)
  | 0, _, _, _ => none
  | room + 1, found, gap, ':' :: rest =>
    if gap.isSome then none else pieces? room [] (some found) rest
  | room + 1, found, gap, cs =>
    match takePiece cs with
    | (_, 0, _) => none
    | (value, _, []) => some (found ++ [value], gap)
    | (value, _, ':' :: c :: rest) => pieces? room (found ++ [value]) gap (c :: rest)
    | (_, _, '.' :: _) =>
      if room = 0 then none else (dottedPieces? cs).map fun ps => (found ++ ps, gap)
    | _ => none

/-- The pieces that a text writes, and those before the gap. -/
def gapPieces? : List Char → Option (List Nat × Option (List Nat))
  | ':' :: ':' :: rest => pieces? 7 [] (some []) rest
  | ':' :: _ => none
  | cs => pieces? 8 [] none cs

/-- The eight pieces that a text writes, if it writes an address. -/
def eightPieces? (cs : List Char) : Option (List Nat) :=
  match gapPieces? cs with
  | some (found, none) => if found.length = 8 then some found else none
  | some (found, some before) =>
    some (before ++ List.replicate (8 - before.length - found.length) 0 ++ found)
  | none => none

def zeroRun (pieces : List Nat) : Nat :=
  (pieces.takeWhile (· == 0)).length

/-- Where the first longest run of zeros begins and how long it is. -/
def longestRun : Nat → List Nat → Nat × Nat
  | _, [] => (0, 0)
  | position, p :: rest =>
    let here := zeroRun (p :: rest)
    let later := longestRun (position + 1) rest
    if later.2 ≤ here then (position, here) else later

/-- A piece in lower-case hexadecimal without leading zeros. -/
def showPiece (n : Nat) : String :=
  String.ofList (Nat.toDigits 16 n)

def showPieces (pieces : List Nat) : String :=
  String.intercalate ":" (pieces.map showPiece)

/-- The written form of an address of eight pieces. -/
def showEightPieces (pieces : List Nat) : String :=
  let (position, length) := longestRun 0 pieces
  if length < 2 then showPieces pieces
  else showPieces (pieces.take position) ++ "::" ++ showPieces (pieces.drop (position + length))

end Flotilla.Url
