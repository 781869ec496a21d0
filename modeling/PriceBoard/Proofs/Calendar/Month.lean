import PriceBoard.Proofs.Calendar.Day
import PriceBoard.Proofs.Calendar.Instant
import Mathlib.Algebra.Order.BigOperators.Group.List
import Mathlib.Algebra.Order.Ring.Nat
import Mathlib.Data.List.GetD

/-!
# The month before

No two valid dates have the same day number: the days before a year, and in a year the days before a
month, grow with it, so that a day lies in one year and in one month. Going back by a month, to the same
day or else to the last one, goes back by 28 to 31 days.
-/
namespace PriceBoard

namespace Date

/-! ### Days before a year and before a month -/

def yearLength (year : ℕ) : ℕ := if isLeap year then 366 else 365

/-- The multiples of a cycle up to a year are one more than those before it, or as many. -/
theorem cycles_step {year : ℕ} (positive : 1 ≤ year) (cycle : ℕ) :
    year / cycle = (year - 1) / cycle + if year % cycle = 0 then 1 else 0 := by
  obtain ⟨before, rfl⟩ := Nat.exists_eq_add_of_le' positive
  rw [Nat.add_sub_cancel, Nat.succ_div]
  simp only [Nat.dvd_iff_mod_eq_zero]

theorem days_before_year_succ {year : ℕ} (positive : 1 ≤ year) :
    daysBeforeYear (year + 1) = daysBeforeYear year + yearLength year := by
  have quarters := cycles_step positive 4
  have centuries := cycles_step positive 100
  have eras := cycles_step positive 400
  have fewer : (year - 1) / 100 ≤ (year - 1) / 4 := by omega
  have nested : (year % 400 = 0 → year % 100 = 0) ∧ (year % 100 = 0 → year % 4 = 0) := by omega
  rw [yearLength, daysBeforeYear, daysBeforeYear, Nat.add_sub_cancel, quarters, centuries, eras]
  simp only [is_leap_iff]
  generalize (year - 1) / 4 = quarters at *
  generalize (year - 1) / 100 = centuries at *
  generalize (year - 1) / 400 = eras at *
  split_ifs <;> omega

theorem days_before_year_monotone : Monotone daysBeforeYear := by
  apply monotone_nat_of_le_succ
  intro year
  unfold daysBeforeYear
  omega

theorem days_before_month_succ (year : ℕ) {month : ℕ} (positive : 1 ≤ month) (known : month ≤ 12) :
    daysBeforeMonth year (month + 1) = daysBeforeMonth year month + monthLength year month := by
  have months : (monthLengths (isLeap year)).length = 12 := rfl
  have inside : month - 1 < (monthLengths (isLeap year)).length := by omega
  have next : month + 1 - 1 = month - 1 + 1 := by omega
  rw [days_before_month_sum, days_before_month_sum, next, List.sum_take_succ _ _ inside, monthLength,
    List.getD_eq_getElem _ _ inside]

theorem days_before_month_monotone (year : ℕ) : Monotone (daysBeforeMonth year) := by
  intro month later ordered
  rw [days_before_month_sum, days_before_month_sum]
  exact List.Sublist.sum_le_sum (List.take_sublist_take_left (by omega)) (fun _ _ => Nat.zero_le _)

theorem days_before_month_le (year month : ℕ) : daysBeforeMonth year month ≤ yearLength year := by
  rw [days_before_month_sum, yearLength, ← month_lengths_sum]
  exact List.Sublist.sum_le_sum (List.take_sublist _ _) (fun _ _ => Nat.zero_le _)

/-! ### Day numbers -/

/-- Of numbers that grow, a day lies between one and the next at one place only. -/
theorem place_unique {before : ℕ → ℕ} (grows : Monotone before) {day first second : ℕ}
    (inFirst : before first ≤ day ∧ day < before (first + 1))
    (inSecond : before second ≤ day ∧ day < before (second + 1)) : first = second := by
  rcases Nat.lt_trichotomy first second with earlier | same | later
  · have ordered : before (first + 1) ≤ before second := grows earlier
    omega
  · exact same
  · have ordered : before (second + 1) ≤ before first := grows later
    omega

section

variable {date : Date} (valid : date.Valid)

include valid

theorem day_in_month :
    daysBeforeMonth date.year date.month ≤ daysBeforeMonth date.year date.month + (date.day - 1) ∧
      daysBeforeMonth date.year date.month + (date.day - 1) <
        daysBeforeMonth date.year (date.month + 1) := by
  obtain ⟨_, _, monthPositive, monthKnown, dayPositive, dayFits⟩ := valid
  rw [days_before_month_succ date.year monthPositive monthKnown]
  omega

theorem day_in_year :
    daysBeforeYear date.year ≤ date.dayNumber ∧
      date.dayNumber < daysBeforeYear (date.year + 1) := by
  have inMonth := (day_in_month valid).2
  have inYear := days_before_month_le date.year (date.month + 1)
  rw [days_before_year_succ valid.1, dayNumber]
  omega

theorem day_number_lt : date.dayNumber < dayLimit := by
  have last : daysBeforeYear 10000 = dayLimit := by decide
  rw [← last]
  exact (day_in_year valid).2.trans_le
    (days_before_year_monotone (Nat.succ_le_succ valid.2.1))

end

theorem eq_of_parts {first second : Date} (years : first.year = second.year)
    (months : first.month = second.month) (days : first.day = second.day) : first = second := by
  cases first
  cases second
  cases years
  cases months
  cases days
  rfl

theorem day_number_injective {first second : Date} (firstValid : first.Valid)
    (secondValid : second.Valid) (same : first.dayNumber = second.dayNumber) : first = second := by
  have inFirst := day_in_year firstValid
  rw [same] at inFirst
  have years := place_unique days_before_year_monotone inFirst (day_in_year secondValid)
  rw [dayNumber, dayNumber, years, Nat.add_assoc, Nat.add_assoc, Nat.add_left_cancel_iff] at same
  have inMonth := day_in_month firstValid
  rw [years, same] at inMonth
  have months := place_unique (days_before_month_monotone second.year) inMonth
    (day_in_month secondValid)
  rw [months, Nat.add_left_cancel_iff] at same
  have days : first.day = second.day := by
    have firstPositive := firstValid.2.2.2.2.1
    have secondPositive := secondValid.2.2.2.2.1
    omega
  exact eq_of_parts years months days

theorem of_day_number_day_number {date : Date} (valid : date.Valid) :
    ofDayNumber date.dayNumber = date := by
  obtain ⟨found, same⟩ := of_day_number_spec (day_number_lt valid)
  exact day_number_injective found valid same

/-! ### The month before -/

/-- The same day in the calendar month directly before, or that month's last day if it is shorter. -/
structure IsMonthBefore (earlier date : Date) : Prop where
  valid : earlier.Valid
  month : 12 * earlier.year + earlier.month + 1 = 12 * date.year + date.month
  day : earlier.day = min date.day (monthLength earlier.year earlier.month)

theorem month_length_ge (year : ℕ) {month : ℕ} (positive : 1 ≤ month) (known : month ≤ 12) :
    28 ≤ monthLength year month := by
  have lengths : ∀ leap, ∀ length ∈ monthLengths leap, 28 ≤ length := by decide
  have inside : month - 1 < (monthLengths (isLeap year)).length := by
    change month - 1 < 12
    omega
  rw [monthLength, List.getD_eq_getElem _ _ inside]
  exact lengths _ _ (List.getElem_mem inside)

variable {earlier date : Date}

/-- The days up to the end of the month before are the days before the month. -/
theorem IsMonthBefore.days_before (before : earlier.IsMonthBefore date) (valid : date.Valid) :
    daysBeforeYear date.year + daysBeforeMonth date.year date.month =
      daysBeforeYear earlier.year + daysBeforeMonth earlier.year earlier.month +
        monthLength earlier.year earlier.month := by
  obtain ⟨earlierPositive, _, monthPositive, monthKnown, _⟩ := before.valid
  obtain ⟨_, _, datePositive, dateKnown, _⟩ := valid
  have months := before.month
  rw [Nat.add_assoc, ← days_before_month_succ earlier.year monthPositive monthKnown]
  by_cases january : date.month = 1
  · have december : earlier.month = 12 := by omega
    have year : date.year = earlier.year + 1 := by omega
    have whole : daysBeforeMonth earlier.year 13 = yearLength earlier.year := by
      rw [days_before_month_sum, yearLength, ← month_lengths_sum]
      rfl
    rw [january, december, year, days_before_year_succ earlierPositive, whole, Nat.add_assoc]
    rfl
  · have year : date.year = earlier.year := by omega
    have month : date.month = earlier.month + 1 := by omega
    rw [year, month]

theorem IsMonthBefore.day_numbers (before : earlier.IsMonthBefore date) (valid : date.Valid) :
    earlier.dayNumber + 28 ≤ date.dayNumber ∧ date.dayNumber ≤ earlier.dayNumber + 31 := by
  have days := before.days_before valid
  have day := before.day
  obtain ⟨_, _, monthPositive, monthKnown, earlierDay, _⟩ := before.valid
  have least := month_length_ge earlier.year monthPositive monthKnown
  have most := month_length_le earlier.year earlier.month
  have dayMost := valid.2.2.2.2.2.trans (month_length_le date.year date.month)
  have dayLeast := valid.2.2.2.2.1
  rw [dayNumber, dayNumber]
  omega

theorem exists_month_before {date : Date} (valid : date.Valid)
    (later : ¬(date.year = 1 ∧ date.month = 1)) :
    ∃ year month,
      (if date.month = 1 then (date.year - 1, 12) else (date.year, date.month - 1)) = (year, month) ∧
      year ≠ 0 ∧ (Date.mk year month (min date.day (monthLength year month))).IsMonthBefore date := by
  obtain ⟨yearPositive, yearKnown, monthPositive, monthKnown, dayPositive, _⟩ := valid
  have isBefore {year month : ℕ} (yearInside : 1 ≤ year ∧ year ≤ 9999)
      (monthInside : 1 ≤ month ∧ month ≤ 12)
      (next : 12 * year + month + 1 = 12 * date.year + date.month) :
      (Date.mk year month (min date.day (monthLength year month))).IsMonthBefore date := by
    have least := month_length_ge year monthInside.1 monthInside.2
    have dayInside : 1 ≤ min date.day (monthLength year month) := by omega
    exact ⟨⟨yearInside.1, yearInside.2, monthInside.1, monthInside.2, dayInside, Nat.min_le_right _ _⟩,
      next, rfl⟩
  by_cases january : date.month = 1
  · refine ⟨date.year - 1, 12, if_pos january, by omega, ?_⟩
    apply isBefore <;> omega
  · refine ⟨date.year, date.month - 1, if_neg january, by omega, ?_⟩
    apply isBefore <;> omega

end Date

/-! ### Wall clocks -/

theorem WallTime.days_before_year_le {wall : WallTime} {year : ℕ} (late : year ≤ wall.date.year) :
    daysBeforeYear year * microsPerDay ≤ wall.micros := by
  obtain ⟨valid, total⟩ := wall.date_spec
  have days := (Date.days_before_year_monotone late).trans (Date.day_in_year valid).1
  have micros := Nat.mul_le_mul_right microsPerDay days
  omega

/-- A valid date and a time of the day are a wall clock's reading. -/
theorem WallTime.exists_of_date {date : Date} (valid : date.Valid) {time : ℕ}
    (inDay : time < microsPerDay) :
    ∃ wall : WallTime, ofMicros? (date.dayNumber * microsPerDay + time : ℕ) = some wall ∧
      wall.date = date ∧ wall.sinceMidnight = time := by
  have bounded := Date.day_number_lt valid
  have fits : date.dayNumber * microsPerDay + time < dayLimit * microsPerDay := by
    unfold microsPerDay at *
    omega
  let wall : WallTime := ⟨_, fits⟩
  have shown : wall.micros = date.dayNumber * microsPerDay + time := rfl
  refine ⟨wall, of_micros_iff.mpr rfl, ?_, ?_⟩
  · have days : wall.micros / microsPerDay = date.dayNumber := by
      unfold microsPerDay at *
      omega
    rw [WallTime.date, days, Date.of_day_number_day_number valid]
  · rw [sinceMidnight, shown, Nat.mul_add_mod', Nat.mod_eq_of_lt inDay]

namespace DateTime

structure IsMonthBefore (earlier moment : DateTime) : Prop where
  date : earlier.wall.date.IsMonthBefore moment.wall.date
  time : earlier.wall.sinceMidnight = moment.wall.sinceMidnight
  offset : earlier.offset = moment.offset

variable {earlier moment : DateTime}

theorem IsMonthBefore.micros (before : earlier.IsMonthBefore moment) :
    earlier.wall.micros + 28 * microsPerDay ≤ moment.wall.micros ∧
      moment.wall.micros ≤ earlier.wall.micros + 31 * microsPerDay := by
  obtain ⟨valid, total⟩ := moment.wall.date_spec
  obtain ⟨_, earlierTotal⟩ := earlier.wall.date_spec
  have days := before.date.day_numbers valid
  have time := before.time
  unfold microsPerDay at *
  omega

/-- Only January of the year 1 has no month before it. -/
theorem month_before_of_later (later : ¬(moment.wall.date.year = 1 ∧ moment.wall.date.month = 1)) :
    ∃ earlier, moment.monthBefore = .ok earlier ∧ earlier.IsMonthBefore moment := by
  obtain ⟨year, month, pair, known, before⟩ :=
    Date.exists_month_before moment.wall.date_spec.1 later
  have inDay : moment.wall.sinceMidnight < microsPerDay := Nat.mod_lt _ (by decide)
  obtain ⟨wall, found, date, time⟩ := WallTime.exists_of_date before.valid inDay
  refine ⟨⟨wall, moment.offset⟩, ?_, ?_, time, rfl⟩
  · rw [monthBefore, pair]
    simp only [if_neg known]
    rw [atWall, found]
  · rwa [← date] at before

end DateTime
end PriceBoard
