import Flotilla.Proofs.Text.Blank
import Flotilla.Text.Number
import Mathlib.Tactic.Ring

/-!
# Decimal Numbers Are Read Back

The decimal form of a number has digits only, so it has nothing to trim, and it is read as the
number. Zeros before it change nothing. A number is read from no other texts than those that write
it, which `WritesNumber` describes.
-/

namespace Flotilla.Text

/-! ## Digits -/

theorem digitValue?_isSome (c : Char) : (digitValue? c).isSome = c.isDigit := by
  unfold digitValue?
  split <;> simp_all [Char.isDigit, Char.le_def]

theorem digitValue?_digitChar {d : Nat} (hd : d < 10) : digitValue? d.digitChar = some d := by
  have hdigit : (digitValue? d.digitChar).isSome := by
    rw [digitValue?_isSome, Nat.isDigit_digitChar]
    exact decide_eq_true hd
  unfold digitValue? at hdigit ⊢
  split at hdigit
  · next hbounds => rw [if_pos hbounds, Nat.toNat_digitChar_of_lt_ten hd]; simp
  · cases hdigit

theorem isBlank_of_isDigit {c : Char} (hc : c.isDigit) : isBlank c = false := by
  simp only [Char.isDigit, Bool.and_eq_true, decide_eq_true_eq, ge_iff_le] at hc
  have hlow : 48 ≤ c.toNat := hc.1
  have hhigh : c.toNat ≤ 57 := hc.2
  simp only [isBlank]
  grind

/-! ## Values of digits -/

theorem digitsValue?_append (acc : Nat) (xs ys : List Char) :
    digitsValue? acc (xs ++ ys) = (digitsValue? acc xs).bind fun n => digitsValue? n ys := by
  -- The value so far is arbitrary: it is what the second part starts from.
  induction xs generalizing acc with
  | nil => rfl
  | cons x xs ih =>
    simp only [List.cons_append, digitsValue?]
    cases digitValue? x with
    | none => rfl
    | some d => exact ih _

/-- The digits of a number have its value. -/
theorem digitsValue?_toDigits (n : Nat) : digitsValue? 0 (Nat.toDigits 10 n) = some n := by
  -- By strong induction: the digits of a number but the last are those of its tenth part.
  induction n using Nat.strongRecOn with
  | ind n ih =>
    by_cases hlt : n < 10
    · rw [Nat.toDigits_of_lt_base hlt]
      simp [digitsValue?, digitValue?_digitChar hlt]
    · -- The last digit comes after the digits of the tenth part.
      rw [Nat.toDigits_of_base_le (by omega) (by omega), digitsValue?_append,
        ih (n / 10) (by omega)]
      simp only [digitsValue?, Option.bind_some, digitValue?_digitChar (Nat.mod_lt n (by omega))]
      congr 1
      omega

theorem digitsValue?_zeros (k : Nat) (cs : List Char) :
    digitsValue? 0 (List.replicate k '0' ++ cs) = digitsValue? 0 cs := by
  induction k with
  | zero => rfl
  | succ k ih => simpa [List.replicate_succ, digitsValue?, digitValue?] using ih

theorem digitValue?_lt {c : Char} {d : Nat} (hd : digitValue? c = some d) : d < 10 := by
  simp only [digitValue?, Char.le_def, UInt32.le_iff_toNat_le, Option.ite_none_right_eq_some,
    Option.some.injEq] at hd
  obtain ⟨⟨hlow, hhigh⟩, rfl⟩ := hd
  change c.toNat ≤ 57 at hhigh
  change c.toNat - 48 < 10
  omega

/-- As many digits as there are bound their value. -/
theorem digitsValue?_lt {acc n : Nat} {cs : List Char} (hn : digitsValue? acc cs = some n) :
    n < (acc + 1) * 10 ^ cs.length := by
  -- By induction on the digits; each of them makes the bound ten times as large.
  induction cs generalizing acc with
  | nil =>
    cases hn
    simp
  | cons c cs ih =>
    obtain ⟨d, hd, hrest⟩ := Option.bind_eq_some_iff.mp hn
    have hdigit := digitValue?_lt hd
    calc n < (10 * acc + d + 1) * 10 ^ cs.length := ih hrest
      _ ≤ (10 * (acc + 1)) * 10 ^ cs.length := Nat.mul_le_mul_right _ (by omega)
      _ = (acc + 1) * 10 ^ (cs.length + 1) := by rw [Nat.pow_succ]; ring

/-! ## The decimal form -/

theorem toList_decimal (n : Nat) : (decimal n).toList = Nat.toDigits 10 n := by
  show (Nat.repr n).toList = _
  simp [Nat.repr]

theorem isDigit_of_mem_decimal {n : Nat} {c : Char} (hc : c ∈ (decimal n).toList) :
    c.isDigit := by
  rw [toList_decimal] at hc
  exact Nat.isDigit_of_mem_toDigits (by omega) (by omega) hc

theorem decimal_length_le {n k : Nat} (hk : 0 < k) : (decimal n).length ≤ k ↔ n < 10 ^ k := by
  rw [← String.length_toList, toList_decimal]
  exact Nat.length_toDigits_le_iff (by omega) hk

theorem trim_decimal (n : Nat) : trim (decimal n) = decimal n := by
  apply String.toList_injective
  rw [toList_trim]
  exact trimChars_eq_self fun c hc => isBlank_of_isDigit (isDigit_of_mem_decimal hc)

theorem numberChars?_decimal (n : Nat) : numberChars? (decimal n).toList = some n := by
  have hvalue : digitsValue? 0 (decimal n).toList = some n := by
    rw [toList_decimal, digitsValue?_toDigits]
  unfold numberChars?
  split
  · next hnil => simp [toList_decimal] at hnil
  -- A digit is no plus sign.
  · next hplus => exact absurd (isDigit_of_mem_decimal (hplus ▸ List.mem_cons_self)) (by decide)
  · next hplus => exact absurd (isDigit_of_mem_decimal (hplus ▸ List.mem_cons_self)) (by decide)
  · exact hvalue

/-- Different numbers have different decimal forms. -/
theorem decimal_inj {m n : Nat} : decimal m = decimal n ↔ m = n := by
  constructor
  · intro h
    have hread := numberChars?_decimal m
    rw [h, numberChars?_decimal] at hread
    exact (Option.some.inj hread).symm
  · rintro rfl
    rfl

/-- A number below the bound is read from its decimal form. -/
theorem numberBelow?_decimal {bound n : Nat} (hn : n < bound) :
    numberBelow? bound (decimal n) = some n := by
  simp [numberBelow?, numberChars?_decimal, hn]

/-! ## The texts that write a number -/

/-- A text that writes a number: digits, at least one of them and perhaps with zeros before the
others, and perhaps a plus sign before all of them. -/
def WritesNumber (s : String) (n : Nat) : Prop :=
  ∃ digits, (s.toList = digits ∨ s.toList = '+' :: digits) ∧ digits ≠ [] ∧
    (∀ c ∈ digits, c.isDigit) ∧ Nat.ofDigitChars 10 digits 0 = n

theorem WritesNumber.ne_empty {s : String} {n : Nat} (h : WritesNumber s n) : s ≠ "" := by
  rintro rfl
  obtain ⟨digits, rfl | hplus, hsome, -⟩ := h
  · exact hsome rfl
  · cases hplus

theorem WritesNumber.not_mem {s : String} {n : Nat} {c : Char} (h : WritesNumber s n)
    (hdigit : c.isDigit = false) (hplus : c ≠ '+') : c ∉ s.toList := by
  obtain ⟨digits, hs, -, hdigits, -⟩ := h
  intro hmem
  -- The character is no plus sign, so it is one of the digits.
  have hc : c ∈ digits := by
    rcases hs with hs | hs
    · rwa [hs] at hmem
    · rw [hs] at hmem
      exact (List.mem_cons.mp hmem).resolve_left hplus
  simp [hdigits c hc] at hdigit

theorem digitValue?_eq_some {c : Char} {d : Nat} :
    digitValue? c = some d ↔ c.isDigit ∧ c.toNat - '0'.toNat = d := by
  rw [← digitValue?_isSome]
  unfold digitValue?
  split <;> simp

/-- Digits are read one after the other, each as ten times what was read plus its own value. -/
theorem digitsValue?_eq_some {acc n : Nat} {cs : List Char} :
    digitsValue? acc cs = some n ↔
      (∀ c ∈ cs, c.isDigit) ∧ Nat.ofDigitChars 10 cs acc = n := by
  -- By induction on the digits, with the value so far arbitrary on both sides.
  induction cs generalizing acc with
  | nil => simp [digitsValue?]
  | cons c rest ih =>
    rw [digitsValue?, Option.bind_eq_some_iff, List.forall_mem_cons, Nat.ofDigitChars_cons]
    constructor
    · rintro ⟨d, hd, hrest⟩
      obtain ⟨hdigit, rfl⟩ := digitValue?_eq_some.mp hd
      obtain ⟨hdigits, hvalue⟩ := ih.mp hrest
      exact ⟨⟨hdigit, hdigits⟩, hvalue⟩
    · rintro ⟨⟨hdigit, hdigits⟩, hvalue⟩
      exact ⟨_, digitValue?_eq_some.mpr ⟨hdigit, rfl⟩, ih.mpr ⟨hdigits, hvalue⟩⟩

theorem numberChars?_of_ne_plus {c : Char} (hc : c ≠ '+') (rest : List Char) :
    numberChars? (c :: rest) = digitsValue? 0 (c :: rest) := by
  unfold numberChars?
  split <;> simp_all

theorem numberChars?_eq_some {s : String} {n : Nat} :
    numberChars? s.toList = some n ↔ WritesNumber s n := by
  have hplus : ('+').isDigit = false := rfl
  unfold WritesNumber
  cases s.toList with
  | nil => simp [numberChars?]
  | cons c rest =>
    by_cases hc : c = '+'
    · -- The digits are what comes after the sign, and there have to be some.
      subst hc
      cases rest with
      | nil => simp [numberChars?, hplus]
      | cons d rest => simp [numberChars?, digitsValue?_eq_some, hplus]
    · rw [numberChars?_of_ne_plus hc, digitsValue?_eq_some]
      simp [hc]

/-- A number below the bound is read from exactly the texts that write it. -/
theorem numberBelow?_eq_some {bound n : Nat} {s : String} :
    numberBelow? bound s = some n ↔ WritesNumber s n ∧ n < bound := by
  simp [numberBelow?, Option.filter_eq_some_iff, numberChars?_eq_some]

end Flotilla.Text
