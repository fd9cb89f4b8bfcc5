/-!
# Bytes as Text

Text from bytes in UTF-8. The lossy reader puts the replacement character in the place of every
longest piece of bytes that could have begun a character but did not go on as one; the strict
reader gives nothing in that case.
-/

namespace Flotilla.Text

def bytes (s : String) : List UInt8 :=
  s.toList.flatMap String.utf8EncodeChar

/-- A character that has begun: the number of bytes still to come, the value of the bits so far,
and the range in which the next byte has to lie. -/
structure Begun where
  left : Nat
  value : Nat
  lo : UInt8
  hi : UInt8

/-- What a byte at the beginning of a character means: a whole character, the beginning of a
longer one, or neither. -/
inductive Leading where
  | whole (c : Char)
  | begun (b : Begun)
  | bad

/-- The meaning of a byte at the beginning of a character. -/
def leading (b : UInt8) : Leading :=
  if b < 0x80 then .whole (Char.ofNat b.toNat)
  else if 0xC2 ≤ b ∧ b ≤ 0xDF then .begun ⟨1, b.toNat - 0xC0, 0x80, 0xBF⟩
  else if 0xE0 ≤ b ∧ b ≤ 0xEF then
    .begun ⟨2, b.toNat - 0xE0, if b = 0xE0 then 0xA0 else 0x80, if b = 0xED then 0x9F else 0xBF⟩
  else if 0xF0 ≤ b ∧ b ≤ 0xF4 then
    .begun ⟨3, b.toNat - 0xF0, if b = 0xF0 then 0x90 else 0x80, if b = 0xF4 then 0x8F else 0xBF⟩
  else .bad

/-- The character that stands for bytes which write none. -/
def replacement : Char := '\ufffd'

/-- The characters that a byte ends at the beginning of a character, and what it begins. -/
def takeLeading (b : UInt8) : List Char × Option Begun :=
  match leading b with
  | .whole c => ([c], none)
  | .begun p => ([], some p)
  | .bad => ([replacement], none)

/-- The characters that bytes write, after what has begun. -/
def lossyFrom : Option Begun → List UInt8 → List Char
  | none, [] => []
  | some _, [] => [replacement]
  | none, b :: rest => (takeLeading b).1 ++ lossyFrom (takeLeading b).2 rest
  | some p, b :: rest =>
    if p.lo ≤ b ∧ b ≤ p.hi then
      let value := p.value * 64 + (b.toNat - 0x80)
      if p.left ≤ 1 then Char.ofNat value :: lossyFrom none rest
      else lossyFrom (some ⟨p.left - 1, value, 0x80, 0xBF⟩) rest
    else replacement :: ((takeLeading b).1 ++ lossyFrom (takeLeading b).2 rest)

/-- The text that bytes write, with the replacement character for bytes that write none. -/
def ofBytesLossy (bs : List UInt8) : String :=
  String.ofList (lossyFrom none bs)

/-- The text that bytes write, if all of them write characters. -/
def ofBytes? (bs : List UInt8) : Option String :=
  String.fromUTF8? ⟨bs.toArray⟩

end Flotilla.Text
