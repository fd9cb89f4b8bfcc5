/-!
# Blank Text

The blank characters are those with the Unicode property `White_Space`. Everything an operator
types is trimmed by this class, and a value that trims to nothing counts as absent.
-/

namespace Flotilla.Text

/-- The characters with the property `White_Space`. -/
def isBlank (c : Char) : Bool :=
  let n := c.toNat
  (0x09 ≤ n && n ≤ 0x0D) || n == 0x20 || n == 0x85 || n == 0xA0 || n == 0x1680 ||
    (0x2000 ≤ n && n ≤ 0x200A) || n == 0x2028 || n == 0x2029 || n == 0x202F || n == 0x205F ||
    n == 0x3000

/-- A list of characters without its leading blanks. -/
def trimLeft (cs : List Char) : List Char :=
  cs.dropWhile isBlank

/-- A list of characters without its trailing blanks. -/
def trimRight (cs : List Char) : List Char :=
  (cs.reverse.dropWhile isBlank).reverse

/-- A list of characters without the blanks at both ends. -/
def trimChars (cs : List Char) : List Char :=
  trimRight (trimLeft cs)

def trim (s : String) : String :=
  String.ofList (trimChars s.toList)

/-- The trimmed text, or nothing if only blanks were there. -/
def nonBlank? (s : String) : Option String :=
  let t := trim s
  if t = "" then none else some t

/-! ## Laws of trimming -/

theorem toList_trim (s : String) : (trim s).toList = trimChars s.toList := by
  simp [trim]

theorem nonBlank?_eq_some {s t : String} :
    nonBlank? s = some t ↔ t = trim s ∧ trim s ≠ "" := by
  unfold nonBlank?
  by_cases h : trim s = "" <;> simp [h, eq_comm]

theorem nonBlank?_eq_none {s : String} : nonBlank? s = none ↔ trim s = "" := by
  unfold nonBlank?
  by_cases h : trim s = "" <;> simp [h]

end Flotilla.Text
