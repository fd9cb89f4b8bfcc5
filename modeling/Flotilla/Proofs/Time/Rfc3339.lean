import Flotilla.Proofs.Text.Number
import Flotilla.Proofs.Time.Calendar
import Flotilla.Time.Rfc3339
import Mathlib.Data.Option.Basic
import Mathlib.Tactic.Positivity

/-!
# Written Instants Are Read Back

An instant is told if its year is, and if it lies in a leap second only at the end of a minute.
These are the instants that are read, and each of them is read from its written form. Every part of
that form is read in turn, whatever comes after it.

## Main results

- `Instant.parse?_render`: a told instant is read from its written form.
- `Instant.isTold_of_parse?`: an instant that is read is told.
-/

namespace Flotilla.Instant

open Text

/-- An instant that has a written form which is read: its year is told, and a leap second is the
last one of a minute. -/
def IsTold (t : Instant) : Prop :=
  Date.isTold t.date.year ∧
    (t.nanos < 1000000000 ∨ t.nanos < 2000000000 ∧ t.seconds % 60 = 59)

instance (t : Instant) : Decidable t.IsTold := by
  unfold IsTold
  infer_instance

/-! ## §1 Digits at the front -/

theorem isDigitChar_eq (c : Char) : isDigitChar c = c.isDigit :=
  digitValue?_isSome c

theorem takeWhile_digits {digits rest : List Char} (hdigits : ∀ c ∈ digits, c.isDigit)
    (hrest : rest.head?.all (!·.isDigit)) :
    (digits ++ rest).takeWhile isDigitChar = digits := by
  rw [List.takeWhile_append_of_pos fun c hc => (isDigitChar_eq c).trans (hdigits c hc)]
  cases rest with
  | nil => simp
  | cons c rest => simp_all [isDigitChar_eq]

theorem dropWhile_digits {digits rest : List Char} (hdigits : ∀ c ∈ digits, c.isDigit)
    (hrest : rest.head?.all (!·.isDigit)) :
    (digits ++ rest).dropWhile isDigitChar = rest := by
  rw [List.dropWhile_append_of_pos fun c hc => (isDigitChar_eq c).trans (hdigits c hc)]
  cases rest with
  | nil => simp
  | cons c rest => simp_all [isDigitChar_eq]

theorem trimLeft_digits {digits rest : List Char} (hdigits : ∀ c ∈ digits, c.isDigit)
    (hsome : digits ≠ []) : trimLeft (digits ++ rest) = digits ++ rest := by
  cases digits with
  | nil => exact absurd rfl hsome
  | cons c digits =>
    simp [trimLeft, isBlank_of_isDigit (hdigits c List.mem_cons_self)]

/-! ## §2 Padded numbers -/

theorem toList_padded (width n : Nat) :
    (padded width n).toList =
      List.replicate (width - (decimal n).length) '0' ++ (decimal n).toList := by
  simp [padded]

theorem isDigit_of_mem_padded {width n : Nat} {c : Char} (hc : c ∈ (padded width n).toList) :
    c.isDigit := by
  rw [toList_padded, List.mem_append] at hc
  obtain hzero | hdigit := hc
  · rw [List.eq_of_mem_replicate hzero]
    decide
  · exact isDigit_of_mem_decimal hdigit

theorem padded_ne_nil (width n : Nat) : (padded width n).toList ≠ [] := by
  simp [toList_padded, toList_decimal]

theorem length_padded {width n : Nat} (hwidth : 0 < width) (hn : n < 10 ^ width) :
    (padded width n).toList.length = width := by
  have hlength := (decimal_length_le hwidth).mpr hn
  rw [toList_padded, List.length_append, List.length_replicate, String.length_toList]
  omega

theorem digitsValue?_padded (width n : Nat) : digitsValue? 0 (padded width n).toList = some n := by
  rw [toList_padded, digitsValue?_zeros, toList_decimal, digitsValue?_toDigits]

/-! ## §3 Parts of the written form -/

/-- A padded number begins with a digit. -/
theorem exists_padded (width n : Nat) :
    ∃ c cs, (padded width n).toList = c :: cs ∧ c.isDigit := by
  obtain ⟨c, cs, htext⟩ := List.exists_cons_of_ne_nil (padded_ne_nil width n)
  exact ⟨c, cs, htext, isDigit_of_mem_padded (htext ▸ List.mem_cons_self)⟩

theorem isEmpty_padded (width n : Nat) : (padded width n).toList.isEmpty = false := by
  obtain ⟨c, cs, htext, -⟩ := exists_padded width n
  rw [htext]
  rfl

theorem number?_padded {width n : Nat} (hwidth : 0 < width) (hn : n < 10 ^ width)
    (rest : List Char) : number? width ((padded width n).toList ++ rest) = some (n, rest) := by
  have hdigits : ∀ c ∈ (padded width n).toList, c.isDigit := fun c => isDigit_of_mem_padded
  have htake : ((padded width n).toList ++ rest).take width = (padded width n).toList :=
    List.take_left' (length_padded hwidth hn)
  have hwhile : (padded width n).toList.takeWhile isDigitChar = (padded width n).toList := by
    simpa using @takeWhile_digits _ [] hdigits rfl
  unfold number?
  dsimp only
  rw [trimLeft_digits hdigits (padded_ne_nil width n), htake, hwhile, List.drop_left,
    digitsValue?_padded, isEmpty_padded]
  rfl

theorem signed_padded (width n : Nat) {rest : List Char} (f : Nat → Int)
    (hrest : rest.head?.all (!·.isDigit)) :
    year?.signed ((padded width n).toList ++ rest) f = some (f n, rest) := by
  have hdigits : ∀ c ∈ (padded width n).toList, c.isDigit := fun c => isDigit_of_mem_padded
  have hhead : ((padded width n).toList ++ rest).head?.any isDigitChar := by
    obtain ⟨c, cs, htext, hc⟩ := exists_padded width n
    simp [htext, isDigitChar_eq, hc]
  unfold year?.signed
  rw [takeWhile_digits hdigits hrest, dropWhile_digits hdigits hrest, digitsValue?_padded, hhead]
  simp

theorem year?_yearText (year : Int) {rest : List Char} (hrest : rest.head?.all (!·.isDigit)) :
    year? ((yearText year).toList ++ rest) = some (year, rest) := by
  unfold yearText
  -- A year of four digits has no sign; any other one has the sign before its digits.
  split
  · next hshort =>
    have hdigits : ∀ c ∈ (padded 4 year.toNat).toList, c.isDigit := fun c => isDigit_of_mem_padded
    have hnumber : number? 4 ((padded 4 year.toNat).toList ++ rest) = some (year.toNat, rest) :=
      number?_padded (by omega) (by omega) rest
    obtain ⟨c, cs, htext, hc⟩ := exists_padded 4 year.toNat
    unfold year?
    rw [trimLeft_digits hdigits (padded_ne_nil 4 _)]
    split
    -- A digit is no sign.
    · next hsign =>
      cases htext ▸ hsign
      exact absurd hc (by decide)
    · next hsign =>
      cases htext ▸ hsign
      exact absurd hc (by decide)
    · rw [hnumber]
      simp [hshort.1]
  · next hlong =>
    split
    · next hneg =>
      have hvalue := signed_padded 4 year.natAbs (fun n => -(n : Int)) hrest
      have hyear : -(year.natAbs : Int) = year := by omega
      rw [hyear] at hvalue
      simpa [year?, trimLeft, isBlank] using hvalue
    · next hpos =>
      have hvalue := signed_padded 4 year.natAbs (fun n => (n : Int)) hrest
      have hyear : (year.natAbs : Int) = year := by omega
      rw [hyear] at hvalue
      simpa [year?, trimLeft, isBlank] using hvalue

theorem fraction?_digits {width n : Nat} (hwidth : 0 < width) (hnine : width ≤ 9)
    (hn : n < 10 ^ width) {rest : List Char} (hrest : rest.head?.all (!·.isDigit)) :
    fraction? (("." ++ padded width n).toList ++ rest) = some (n * 10 ^ (9 - width), rest) := by
  have hdigits : ∀ c ∈ (padded width n).toList, c.isDigit := fun c => isDigit_of_mem_padded
  have hlength := length_padded hwidth hn
  have htake : (padded width n).toList.take 9 = (padded width n).toList :=
    List.take_of_length_le (by omega)
  have htext :
      ("." ++ padded width n).toList ++ rest = '.' :: ((padded width n).toList ++ rest) := by
    simp
  rw [htext]
  simp only [fraction?, takeWhile_digits hdigits hrest, dropWhile_digits hdigits hrest, htake,
    digitsValue?_padded, hlength, isEmpty_padded]
  rfl

theorem fraction?_fractionText {nanos : Nat} (hnanos : nanos < 1000000000) {c : Char}
    {rest : List Char} (hdigit : ¬c.isDigit) (hpoint : c ≠ '.') :
    fraction? ((fractionText nanos).toList ++ c :: rest) = some (nanos, c :: rest) := by
  have hrest : (c :: rest).head?.all (!·.isDigit) := by simpa using hdigit
  -- The four lengths of a fraction: none, three, six and nine digits.
  unfold fractionText
  split
  · next hzero => simp [fraction?, hpoint, hzero]
  split
  · next hmillis =>
    rw [fraction?_digits (by omega) (by omega) (by omega) hrest]
    simp only [Option.some.injEq, Prod.mk.injEq, and_true]
    omega
  split
  · next hmicros =>
    rw [fraction?_digits (by omega) (by omega) (by omega) hrest]
    simp only [Option.some.injEq, Prod.mk.injEq, and_true]
    omega
  · rw [fraction?_digits (by omega) (by omega) (by omega) hrest]
    simp

theorem separator?_self {c : Char} (hc : isBlank c = false) (rest : List Char) :
    separator? c (c :: rest) = some rest := by
  simp [separator?, trimLeft, hc]

theorem day?_written {year : Int} {month day : Nat} (hmonth : month < 100) (hday : day < 100)
    (rest : List Char) :
    day? ((yearText year).toList ++ '-' ::
        ((padded 2 month).toList ++ '-' :: ((padded 2 day).toList ++ rest))) =
      some (⟨year, month, day⟩, rest) := by
  unfold day?
  simp [year?_yearText, separator?_self (c := '-') rfl, number?_padded, hmonth, hday]

theorem clock?_written {hour minute second : Nat} (hhour : hour < 100) (hminute : minute < 100)
    (hsecond : second < 100) (rest : List Char) :
    clock? ((padded 2 hour).toList ++ ':' ::
        ((padded 2 minute).toList ++ ':' :: ((padded 2 second).toList ++ rest))) =
      some ((hour, minute, second), rest) := by
  unfold clock?
  simp [separator?_self (c := ':') rfl, number?_padded, hhour, hminute, hsecond]

/-! ## §4 The whole form -/

theorem toList_render (t : Instant) :
    t.render.toList =
      (yearText t.date.year).toList ++ '-' ::
        ((padded 2 t.date.month).toList ++ '-' ::
          ((padded 2 t.date.day).toList ++ 'T' ::
            ((padded 2 ((t.seconds % 86400).toNat / 3600)).toList ++ ':' ::
              ((padded 2 ((t.seconds % 86400).toNat / 60 % 60)).toList ++ ':' ::
                ((padded 2 ((t.seconds % 86400).toNat % 60 +
                    if t.nanos < 1000000000 then 0 else 1)).toList ++
                  ((fractionText (t.nanos % 1000000000)).toList ++ ['Z'])))))) := by
  unfold render
  simp

theorem ofWall?_eq_some {date : Date} {hour minute second nanos : Nat} {offset : Int}
    {t : Instant} :
    ofWall? date hour minute second nanos offset = some t ↔
      date.isValid ∧ (hour ≤ 23 ∧ minute ≤ 59 ∧ second ≤ 60) ∧ Date.isTold t.date.year ∧
        t = if second = 60 then
            ⟨date.toDays * 86400 + hour * 3600 + minute * 60 + 59 - offset, nanos + 1000000000⟩
          else ⟨date.toDays * 86400 + hour * 3600 + minute * 60 + second - offset, nanos⟩ := by
  unfold ofWall?
  by_cases hleap : second = 60 <;> simp [Option.bind_eq_some_iff, hleap] <;> grind

theorem isValid_date {t : Instant} (ht : t.IsTold) : t.date.isValid :=
  Date.isValid_ofDays ht.1

/-- The parts of a told instant are put together again. -/
theorem ofWall?_parts {t : Instant} (ht : t.IsTold) :
    ofWall? t.date ((t.seconds % 86400).toNat / 3600) ((t.seconds % 86400).toNat / 60 % 60)
      ((t.seconds % 86400).toNat % 60 + if t.nanos < 1000000000 then 0 else 1)
      (t.nanos % 1000000000) 0 = some t := by
  have hday : t.date.toDays = t.seconds / 86400 := Date.toDays_ofDays _
  -- The date is counted back to its day, and the clock to the seconds of this day.
  rw [ofWall?_eq_some, hday]
  refine ⟨isValid_date ht, ⟨by omega, by omega, by split <;> omega⟩, ht.1, ?_⟩
  obtain ⟨-, hnanos⟩ := ht
  obtain ⟨seconds, nanos⟩ := t
  dsimp only at hnanos ⊢
  by_cases hplain : nanos < 1000000000
  · rw [if_pos hplain, if_neg (by omega)]
    congr 1 <;> omega
  · -- In a leap second the minute has come to its end, and a second 60 is written.
    have hend := hnanos.resolve_left hplain
    rw [if_neg hplain, if_pos (by omega)]
    congr 1 <;> omega

/-- **A told instant is read from its written form.** -/
theorem parse?_render {t : Instant} (ht : t.IsTold) : parse? t.render = some t := by
  have hdate := Date.lt_of_isValid (isValid_date ht)
  unfold parse?
  -- Part by part, each one before whatever comes after it.
  rw [toList_render, day?_written hdate.1 hdate.2]
  simp only [Option.bind_eq_bind, Option.bind_some, mark?]
  rw [clock?_written (by omega) (by omega) (by split <;> omega)]
  simp only [Option.bind_some]
  rw [fraction?_fractionText (by omega) (by decide) (by decide)]
  exact ofWall?_parts ht

/-! ## §5 What is read -/

theorem lt_of_fraction? {cs rest : List Char} {nanos : Nat}
    (hread : fraction? cs = some (nanos, rest)) : nanos < 1000000000 := by
  unfold fraction? at hread
  split at hread
  · next cs =>
    simp only [Option.bind_eq_bind, Option.bind_eq_some_iff, Option.guard_eq_some',
      Option.pure_def, Option.some.injEq, Prod.mk.injEq] at hread
    obtain ⟨-, -, n, hn, rfl, -⟩ := hread
    -- At most nine digits are kept, and the value is what they are worth in nanoseconds.
    generalize hkept : (List.takeWhile isDigitChar cs).take 9 = kept at hn ⊢
    have hlength : kept.length ≤ 9 := by
      rw [← hkept]
      exact List.length_take_le 9 _
    have hlt := digitsValue?_lt hn
    rw [Nat.zero_add, Nat.one_mul] at hlt
    calc n * 10 ^ (9 - kept.length)
        < 10 ^ kept.length * 10 ^ (9 - kept.length) :=
          Nat.mul_lt_mul_of_pos_right hlt (by positivity)
      _ = 10 ^ 9 := by rw [← Nat.pow_add, Nat.add_sub_cancel' hlength]
  · cases hread
    omega

/-- Hours and minutes are a whole number of minutes, whatever the sign makes of them. -/
theorem signed_mod {cs rest : List Char} {f : Nat → Int} {offset : Int}
    (hf : ∀ n, f (n * 60) % 60 = 0) (hread : offset?.signed cs f = some (offset, rest)) :
    offset % 60 = 0 := by
  simp only [offset?.signed, Option.bind_eq_bind, Option.bind_eq_some_iff, Prod.exists,
    Option.pure_def, Option.some.injEq, Prod.mk.injEq] at hread
  obtain ⟨h₁, h₂, cs, -, m₁, m₂, cs, -, -, -, -, -, rfl, -⟩ := hread
  have hminutes : (10 * h₁ + h₂) * 3600 + (10 * m₁ + m₂) * 60 =
      ((10 * h₁ + h₂) * 60 + (10 * m₁ + m₂)) * 60 := by ring
  rw [hminutes]
  exact hf _

/-- An offset is a whole number of minutes. -/
theorem offset?_mod {cs rest : List Char} {offset : Int}
    (hread : offset? cs = some (offset, rest)) : offset % 60 = 0 := by
  unfold offset? at hread
  split at hread
  · cases hread; rfl
  · cases hread; rfl
  -- The three ways to write a sign.
  · exact signed_mod (by omega) hread
  · exact signed_mod (by omega) hread
  · exact signed_mod (by omega) hread
  · split at hread
    · cases hread; rfl
    · cases hread
  · cases hread

/-- **An instant that is read is told.** -/
theorem isTold_of_parse? {text : String} {t : Instant} (hread : parse? text = some t) :
    t.IsTold := by
  unfold parse? at hread
  simp only [Option.bind_eq_bind, Option.bind_eq_some_iff, Prod.exists] at hread
  obtain ⟨date, cs, -, cs, -, hour, minute, second, cs, -, nanos, cs, hfraction, offset, cs,
    hoffset, -, -, hwall⟩ := hread
  have hnanos := lt_of_fraction? hfraction
  have hminutes := offset?_mod hoffset
  obtain ⟨-, ⟨-, -, hsecond⟩, htold, rfl⟩ := ofWall?_eq_some.mp hwall
  refine ⟨htold, ?_⟩
  by_cases hleap : second = 60
  -- Second 60 is read as the last second of a minute, and an offset moves it by whole minutes.
  · right
    rw [if_pos hleap]
    dsimp only
    omega
  · left
    rwa [if_neg hleap]

end Flotilla.Instant
