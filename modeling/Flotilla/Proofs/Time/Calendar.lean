import Flotilla.Time.Instant
import Mathlib.Data.Int.Init
import Mathlib.Tactic.IntervalCases

/-!
# Days of the Calendar

The day that is counted from 1970-01-01 is a day of the calendar, and counting to it gives the
number of days again.

## Main results

- `Date.toDays_ofDays`: counting to a counted day.
- `Date.isValid_ofDays`: a counted day is a day of the calendar.
-/

namespace Flotilla.Date

/-! ## §1 Years of a cycle of 400 years -/

/-- The day of the cycle on which a year begins. -/
def yearStart (year : Int) : Int :=
  365 * year + year / 4 - year / 100

/-- The year of the cycle in which a day lies. -/
def yearAt (day : Int) : Int :=
  (day - day / 1460 + day / 36524 - day / 146096) / 365

theorem yearAt_mono {m n : Int} (hm : 0 ≤ m) (hmn : m ≤ n) : yearAt m ≤ yearAt n := by
  induction n, hmn using Int.leInduction with
  | base => exact le_refl _
  | succ n hmn ih =>
    have hn : 0 ≤ n := hm.trans hmn
    refine ih.trans ?_
    unfold yearAt
    omega

theorem yearAt_yearStart {y : Int} (hlow : 0 ≤ y) (hhigh : y < 400) : yearAt (yearStart y) = y := by
  -- A cycle has few years, so they are looked at one by one.
  have htable : ∀ k : Nat, k < 400 → yearAt (yearStart k) = k := by decide +kernel
  obtain ⟨k, rfl⟩ := Int.eq_ofNat_of_zero_le hlow
  exact htable k (by omega)

/-- The day before a year lies in the year before. -/
theorem yearAt_pred_yearStart {y : Int} (hlow : 0 ≤ y) (hhigh : y < 399) :
    yearAt (yearStart (y + 1) - 1) = y := by
  have htable : ∀ k : Nat, k < 399 → yearAt (yearStart (k + 1) - 1) = k := by decide +kernel
  obtain ⟨k, rfl⟩ := Int.eq_ofNat_of_zero_le hlow
  exact htable k (by omega)

theorem yearAt_bounds {day : Int} (hlow : 0 ≤ day) (hhigh : day < 146097) :
    0 ≤ yearAt day ∧ yearAt day < 400 := by
  unfold yearAt
  omega

/-- The year in which a day lies has begun. -/
theorem yearStart_yearAt_le {day : Int} (hlow : 0 ≤ day) (hhigh : day < 146097) :
    yearStart (yearAt day) ≤ day := by
  have hyear := yearAt_bounds hlow hhigh
  by_contra! hbefore
  have hpos : 0 < yearAt day := by
    by_contra! hzero
    have hfirst : yearAt day = 0 := by omega
    have hstart : yearStart (yearAt day) = 0 := by rw [hfirst]; rfl
    omega
  -- The last day before the year lies in the year before, so this day would lie there as well.
  have hlast := yearAt_pred_yearStart (y := yearAt day - 1) (by omega) (by omega)
  rw [sub_add_cancel] at hlast
  have hmono := yearAt_mono hlow (show day ≤ yearStart (yearAt day) - 1 by omega)
  omega

/-- The year after the one in which a day lies has not begun. -/
theorem lt_yearStart_succ {day : Int} (hlow : 0 ≤ day) (hlt : yearAt day < 399) :
    day < yearStart (yearAt day + 1) := by
  have hyear : 0 ≤ yearAt day := by
    unfold yearAt
    omega
  have hstart : 0 ≤ yearStart (yearAt day + 1) := by
    unfold yearStart
    omega
  by_contra! hafter
  -- Otherwise the day would lie in the next year, as its first day does.
  have hnext := yearAt_yearStart (y := yearAt day + 1) (by omega) (by omega)
  have hmono := yearAt_mono hstart hafter
  omega

/-- The day of the year, counted from March: a year that ends in a leap day has one day more. -/
theorem dayOfYear_bounds {day : Int} (hlow : 0 ≤ day) (hhigh : day < 146097) :
    0 ≤ day - yearStart (yearAt day) ∧
      (day - yearStart (yearAt day) ≤ 364 ∨
        day - yearStart (yearAt day) = 365 ∧ isLeapYear (yearAt day + 1)) := by
  have hyear := yearAt_bounds hlow hhigh
  have hbegun := yearStart_yearAt_le hlow hhigh
  have hnext := lt_yearStart_succ hlow
  refine ⟨by omega, ?_⟩
  simp only [isLeapYear, Bool.and_eq_true, Bool.or_eq_true, beq_iff_eq, bne_iff_ne]
  generalize yearAt day = y at hyear hnext ⊢
  unfold yearStart at hnext ⊢
  -- From one year to the next a quotient grows where the year can be divided, and nowhere else.
  have hquarter : (y + 1) / 4 = y / 4 ∨ (y + 1) / 4 = y / 4 + 1 ∧ (y + 1) % 4 = 0 := by omega
  have hcentury : (y + 1) / 100 = y / 100 ∨ (y + 1) / 100 = y / 100 + 1 ∧ (y + 1) % 100 = 0 := by
    omega
  by_cases hleap : (y + 1) % 4 = 0 ∧ (¬(y + 1) % 100 = 0 ∨ (y + 1) % 400 = 0)
  · have hlast : day - (365 * y + y / 4 - y / 100) ≤ 365 := by omega
    exact hlast.lt_or_eq.imp (by omega) (⟨·, hleap⟩)
  · left
    omega

/-! ## §2 Days of a year that begins in March -/

/-- The date of a day of a year that begins in March. -/
def ofDayOfYear (year day : Int) : Date :=
  let monthFromMarch := (5 * day + 2) / 153
  let dayOfMonth := (day - (153 * monthFromMarch + 2) / 5 + 1).toNat
  if monthFromMarch < 10 then ⟨year, (monthFromMarch + 3).toNat, dayOfMonth⟩
  else ⟨year + 1, (monthFromMarch - 9).toNat, dayOfMonth⟩

theorem ofDays_eq (days : Int) :
    ofDays days =
      ofDayOfYear (yearAt ((days + 719468) % 146097) + (days + 719468) / 146097 * 400)
        ((days + 719468) % 146097 - yearStart (yearAt ((days + 719468) % 146097))) := by
  have hbounds : 0 ≤ (days + 719468) % 146097 ∧ (days + 719468) % 146097 < 146097 := by omega
  obtain ⟨hlow, hhigh⟩ := dayOfYear_bounds hbounds.1 hbounds.2
  unfold ofDays ofDayOfYear
  simp only [← yearAt.eq_1, ← yearStart.eq_1]
  generalize (days + 719468) % 146097 - yearStart (yearAt ((days + 719468) % 146097)) = day
    at hlow hhigh ⊢
  -- January and February, which come last, belong to the next year.
  split
  · next hmonth => rw [if_neg (by omega)]
  · next hmonth => rw [if_pos (by omega)]

theorem toDays_ofDayOfYear {year day : Int} (hlow : 0 ≤ day) (hhigh : day ≤ 365) :
    (ofDayOfYear year day).toDays =
      year / 400 * 146097 + yearStart (year % 400) + day - 719468 := by
  unfold ofDayOfYear toDays yearStart
  dsimp only
  have hmonth : 0 ≤ (5 * day + 2) / 153 ∧ (5 * day + 2) / 153 < 12 := by omega
  have hday : 0 ≤ day - (153 * ((5 * day + 2) / 153) + 2) / 5 + 1 := by omega
  generalize (5 * day + 2) / 153 = m at hmonth hday ⊢
  -- From March to December the year is the same; January and February are in the next one.
  split
  · have hlate : ¬(m + 3).toNat ≤ 2 := by omega
    have hback : ((m + 3).toNat + 9 : Int) % 12 = m := by omega
    simp only [hlate, if_false, hback]
    omega
  · have hearly : (m - 9).toNat ≤ 2 := by omega
    have hback : ((m - 9).toNat + 9 : Int) % 12 = m := by omega
    simp only [hearly, if_true, hback, add_sub_cancel_right]
    omega

theorem isValid_ofDayOfYear {year day : Int} (hlow : 0 ≤ day)
    (hhigh : day ≤ 364 ∨ day = 365 ∧ isLeapYear (year + 1))
    (htold : isTold (ofDayOfYear year day).year) : (ofDayOfYear year day).isValid := by
  unfold isValid
  rw [htold]
  unfold ofDayOfYear
  have hmonth : 0 ≤ (5 * day + 2) / 153 ∧ (5 * day + 2) / 153 < 12 := by omega
  have hfirst : 153 * ((5 * day + 2) / 153) ≤ 5 * day + 2 := by omega
  have hlast : 5 * day + 2 < 153 * ((5 * day + 2) / 153) + 153 := by omega
  generalize (5 * day + 2) / 153 = m at hmonth hfirst hlast ⊢
  obtain ⟨hnonneg, hlt⟩ := hmonth
  -- The lengths of the months are one by one those of the calendar; February comes last.
  interval_cases m <;> simp [daysInMonth] <;> grind

/-! ## §3 Counted days -/

theorem isLeapYear_add_cycles (year cycles : Int) :
    isLeapYear (year + cycles * 400) = isLeapYear year := by
  unfold isLeapYear
  have h₄ : (year + cycles * 400) % 4 = year % 4 := by omega
  have h₁₀₀ : (year + cycles * 400) % 100 = year % 100 := by omega
  have h₄₀₀ : (year + cycles * 400) % 400 = year % 400 := by omega
  rw [h₄, h₁₀₀, h₄₀₀]

/-- **Counting to a counted day gives the number of days again.** -/
@[simp] theorem toDays_ofDays (days : Int) : (ofDays days).toDays = days := by
  have hday : 0 ≤ (days + 719468) % 146097 ∧ (days + 719468) % 146097 < 146097 := by omega
  have hyear := yearAt_bounds hday.1 hday.2
  obtain ⟨hlow, hhigh⟩ := dayOfYear_bounds hday.1 hday.2
  rw [ofDays_eq, toDays_ofDayOfYear hlow (hhigh.elim (by omega) (fun h => h.1.le))]
  generalize yearAt ((days + 719468) % 146097) = y at hyear ⊢
  have hcycle : (y + (days + 719468) / 146097 * 400) / 400 = (days + 719468) / 146097 := by omega
  have hmod : (y + (days + 719468) / 146097 * 400) % 400 = y := by omega
  -- Whole cycles and the day of the cycle add up to the days that were counted.
  rw [hcycle, hmod]
  omega

/-- **A counted day is a day of the calendar**, unless its year is not told. -/
theorem isValid_ofDays {days : Int} (htold : isTold (ofDays days).year) :
    (ofDays days).isValid := by
  have hday : 0 ≤ (days + 719468) % 146097 ∧ (days + 719468) % 146097 < 146097 := by omega
  obtain ⟨hlow, hhigh⟩ := dayOfYear_bounds hday.1 hday.2
  rw [ofDays_eq] at htold ⊢
  refine isValid_ofDayOfYear hlow (hhigh.imp_right fun h => ⟨h.1, ?_⟩) htold
  rw [add_right_comm, isLeapYear_add_cycles]
  exact h.2

/-- A month and a day of the calendar have two digits. -/
theorem lt_of_isValid {d : Date} (hd : d.isValid) : d.month < 100 ∧ d.day < 100 := by
  have hlength : daysInMonth d.year d.month ≤ 31 := by
    unfold daysInMonth
    grind
  simp only [isValid, Bool.and_eq_true, decide_eq_true_eq] at hd
  omega

end Flotilla.Date
