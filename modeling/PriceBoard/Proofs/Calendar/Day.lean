import PriceBoard.Calendar.DateTime
import Mathlib.Algebra.Ring.Nat
import Mathlib.Tactic.SplitIfs

/-!
# Days and dates

A day number below the limit names a valid date, and the date's day number is the day number again. The
year and then the month are taken off the number of days; each step is undone by the days that lie before
the year, and before the month. So a wall clock's reading is its date and the time since midnight.
-/
namespace PriceBoard

namespace Date

/-! ### Years -/

theorem is_leap_iff {year : ℕ} :
    isLeap year = true ↔ year % 4 = 0 ∧ (year % 100 ≠ 0 ∨ year % 400 = 0) := by
  simp only [isLeap, Bool.and_eq_true, Bool.or_eq_true, decide_eq_true_eq]

/-- Years in cycles of 400, 100, 4 and 1, the first day of the year 1 being day 0. -/
structure YearParts where
  era : ℕ
  century : ℕ
  cycle : ℕ
  year : ℕ
  centuryBounded : century ≤ 3
  cycleBounded : cycle ≤ 24
  yearBounded : year ≤ 3

namespace YearParts

variable (parts : YearParts)

def number : ℕ := 400 * parts.era + 100 * parts.century + 4 * parts.cycle + parts.year + 1

def days : ℕ := 146097 * parts.era + 36524 * parts.century + 1461 * parts.cycle + 365 * parts.year

/-- The fourth year of a cycle, unless the cycle ends a century that does not end an era. -/
def Leap : Prop := parts.year = 3 ∧ (parts.cycle = 24 → parts.century = 3)

theorem days_before_number : daysBeforeYear parts.number = parts.days := by
  have centuryBounded := parts.centuryBounded
  have cycleBounded := parts.cycleBounded
  have yearBounded := parts.yearBounded
  have quarters : (parts.number - 1) / 4 = 100 * parts.era + 25 * parts.century + parts.cycle := by
    unfold number
    omega
  have centuries : (parts.number - 1) / 100 = 4 * parts.era + parts.century := by
    unfold number
    omega
  have eras : (parts.number - 1) / 400 = parts.era := by
    unfold number
    omega
  rw [daysBeforeYear, quarters, centuries, eras]
  unfold number days
  omega

theorem is_leap_number : isLeap parts.number = true ↔ parts.Leap := by
  have centuryBounded := parts.centuryBounded
  have cycleBounded := parts.cycleBounded
  have yearBounded := parts.yearBounded
  rw [is_leap_iff]
  unfold number Leap
  omega

end YearParts

theorem split_year_parts (days : ℕ) : ∃ (parts : YearParts) (inYear : ℕ),
    splitYear days = (parts.number, inYear) ∧ days = parts.days + inYear ∧
      (inYear < 365 ∨ inYear = 365 ∧ parts.Leap) := by
  let inEra := days % 146097
  let century := min (inEra / 36524) 3
  let inCentury := inEra - century * 36524
  let inCycle := inCentury % 1461
  let year := min (inCycle / 365) 3
  have eraBounded : inEra < 146097 := Nat.mod_lt _ (by decide)
  have inCenturyBounded : inCentury < 36524 ∨ inCentury = 36524 ∧ century = 3 := by omega
  have inCycleBounded : inCycle < 1461 := Nat.mod_lt _ (by decide)
  let parts : YearParts := ⟨days / 146097, century, inCentury / 1461, year, by omega, by omega, by omega⟩
  refine ⟨parts, inCycle - year * 365, rfl, ?_, ?_⟩
  · change days = 146097 * (days / 146097) + 36524 * century + 1461 * (inCentury / 1461) +
      365 * year + (inCycle - year * 365)
    omega
  · change _ ∨ _ ∧ year = 3 ∧ (inCentury / 1461 = 24 → century = 3)
    omega

/-! ### Months -/

/-- The month whose days hold a day of the year, and the days of the months before it. -/
theorem split_month_spec {lengths : List ℕ} (month : ℕ) {day : ℕ} (fits : day < lengths.sum) :
    ∃ (place : ℕ) (inMonth : ℕ), splitMonth month lengths day = (month + place, inMonth) ∧
      place < lengths.length ∧ inMonth < lengths.getD place 0 ∧
      (lengths.take place).sum + inMonth = day := by
  induction lengths generalizing month day with
  | nil => exact absurd fits (Nat.not_lt_zero day)
  | cons length lengths induction =>
      by_cases here : day < length
      · refine ⟨0, day, ?_, Nat.succ_pos _, here, Nat.zero_add day⟩
        rw [splitMonth, if_pos here]
        rfl
      · rw [List.sum_cons] at fits
        obtain ⟨place, inMonth, found, inside, shorter, total⟩ :=
          @induction (month + 1) (day - length) (by omega)
        refine ⟨place + 1, inMonth, ?_, Nat.succ_lt_succ inside, shorter, ?_⟩
        · rw [splitMonth, if_neg here, found, Nat.add_assoc, Nat.add_comm 1]
        · rw [List.take_succ_cons, List.sum_cons, Nat.add_assoc, total]
          omega

theorem days_before_month_sum (year month : ℕ) :
    daysBeforeMonth year month = ((monthLengths (isLeap year)).take (month - 1)).sum :=
  List.sum_eq_foldl.symm

theorem month_lengths_sum (leap : Bool) :
    (monthLengths leap).sum = if leap then 366 else 365 := by
  cases leap <;> rfl

theorem month_length_le (year month : ℕ) : monthLength year month ≤ 31 := by
  have lengths : ∀ leap, ∀ length ∈ monthLengths leap, length ≤ 31 := by decide
  rw [monthLength, List.getD_eq_getElem?_getD]
  cases found : (monthLengths (isLeap year))[month - 1]? with
  | none => exact Nat.zero_le 31
  | some length => exact lengths _ length (List.mem_of_getElem? found)

/-! ### Dates -/

theorem of_day_number_spec {days : ℕ} (bounded : days < dayLimit) :
    (ofDayNumber days).Valid ∧ (ofDayNumber days).dayNumber = days := by
  obtain ⟨parts, inYear, split, total, inYearBounded⟩ := split_year_parts days
  have fits : inYear < (monthLengths (isLeap parts.number)).sum := by
    rw [month_lengths_sum]
    split_ifs with leap
    · omega
    · rcases inYearBounded with shorter | ⟨_, isLeap⟩
      · exact shorter
      · exact absurd (parts.is_leap_number.mpr isLeap) leap
  obtain ⟨place, inMonth, found, inside, shorter, monthTotal⟩ := split_month_spec 1 fits
  have date : ofDayNumber days = ⟨parts.number, 1 + place, inMonth + 1⟩ := by
    simp only [ofDayNumber, split, found]
  have months : (monthLengths (isLeap parts.number)).length = 12 := rfl
  have lastYear : parts.number ≤ 9999 := by
    have centuryBounded := parts.centuryBounded
    have cycleBounded := parts.cycleBounded
    have yearBounded := parts.yearBounded
    unfold dayLimit at bounded
    unfold YearParts.days at total
    unfold YearParts.number
    omega
  have placed : 1 + place - 1 = place := Nat.add_sub_cancel_left 1 place
  rw [date]
  constructor
  · refine ⟨Nat.succ_pos _, lastYear, Nat.le_add_right 1 place, ?_, Nat.succ_pos _, ?_⟩
    · change 1 + place ≤ 12
      omega
    · change inMonth + 1 ≤ (monthLengths (isLeap parts.number)).getD (1 + place - 1) 0
      rw [placed]
      exact shorter
  · rw [dayNumber, parts.days_before_number, days_before_month_sum, placed, Nat.add_sub_cancel,
      Nat.add_assoc, monthTotal]
    exact total.symm

end Date

theorem WallTime.date_spec (wall : WallTime) :
    wall.date.Valid ∧ wall.date.dayNumber * microsPerDay + wall.sinceMidnight = wall.micros := by
  have dayBounded : wall.micros / microsPerDay < dayLimit := by
    apply Nat.div_lt_of_lt_mul
    rw [Nat.mul_comm]
    exact wall.bounded
  obtain ⟨valid, sameDay⟩ := Date.of_day_number_spec dayBounded
  refine ⟨valid, ?_⟩
  rw [WallTime.date, sameDay]
  exact Nat.div_add_mod' _ _

end PriceBoard
