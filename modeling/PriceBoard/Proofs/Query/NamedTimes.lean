import PriceBoard.Proofs.Calendar.Month
import PriceBoard.Query.Dates

/-!
# Past times by name

From the year 2 on each of the four names has a time. It lies back by a number of days that no other name
has, so the times stand in order: last month, last week, yesterday, today, now.
-/
namespace PriceBoard.Query

open PriceBoard.Text

namespace NamedTime

theorem of_text_iff {text : List Char} {named : NamedTime} :
    ofText? text = some named ↔ lowercase (trim text) = named.keyword.toList := by
  constructor
  · intro found
    have keyword := List.find?_some found
    rw [decide_eq_true_iff] at keyword
    rw [keyword, String.toList_ofList]
  · intro keyword
    rw [ofText?, keyword]
    cases named <;> decide

variable {now : DateTime}

/-- A whole number of days back. -/
theorem minus_days {count : ℕ} (fits : count * microsPerDay ≤ now.wall.micros) :
    ∃ earlier, (days count).bind now.minus = .ok earlier ∧
      earlier.wall.micros + count * microsPerDay = now.wall.micros ∧ earlier.offset = now.offset := by
  obtain ⟨earlier, found, micros, offset⟩ := DateTime.minus_micros_of_fits fits
  exact ⟨earlier, found, by omega, offset⟩

theorem midnight_micros (now : DateTime) :
    now.midnight.wall.micros ≤ now.wall.micros ∧
      now.wall.micros < now.midnight.wall.micros + microsPerDay := by
  have inDay : now.wall.sinceMidnight < microsPerDay := Nat.mod_lt _ (by decide)
  have micros : now.midnight.wall.micros = now.wall.micros - now.wall.sinceMidnight := rfl
  omega

def leastDays : NamedTime → ℕ
  | .today => 0
  | .yesterday => 1
  | .lastWeek => 7
  | .lastMonth => 28

/-- The first number of days that a name's time does not lie back. -/
def beyondDays : NamedTime → ℕ
  | .today => 1
  | .yesterday => 2
  | .lastWeek => 8
  | .lastMonth => 32

structure LiesBack (now : DateTime) (named : NamedTime) (time : DateTime) : Prop where
  offset : time.offset = now.offset
  least : time.wall.micros + named.leastDays * microsPerDay ≤ now.wall.micros
  beyond : now.wall.micros < time.wall.micros + named.beyondDays * microsPerDay

theorem LiesBack.before {earlier later : NamedTime} {first second : DateTime}
    (apart : later.beyondDays ≤ earlier.leastDays) (firstBack : LiesBack now earlier first)
    (secondBack : LiesBack now later second) : first.Before second := by
  have micros := Nat.mul_le_mul_right microsPerDay apart
  have least := firstBack.least
  have beyond := secondBack.beyond
  apply (DateTime.before_iff_same_offset (firstBack.offset.trans secondBack.offset.symm)).mpr
  omega

theorem resolve_of_late (late : 2 ≤ now.wall.date.year) (named : NamedTime) :
    ∃ time, named.resolve now = .ok time ∧ LiesBack now named time := by
  have firstYear := WallTime.days_before_year_le late
  have days : daysBeforeYear 2 = 365 := rfl
  rw [days] at firstYear
  obtain ⟨midnightLeast, midnightMost⟩ := midnight_micros now
  cases named with
  | today =>
      refine ⟨now.midnight, rfl, rfl, ?_, ?_⟩ <;> dsimp only [leastDays, beyondDays] <;> omega
  | yesterday =>
      obtain ⟨time, found, micros, offset⟩ := @minus_days now.midnight 1 (by omega)
      refine ⟨time, found, offset, ?_, ?_⟩ <;> dsimp only [leastDays, beyondDays] <;> omega
  | lastWeek =>
      obtain ⟨time, found, micros, offset⟩ := @minus_days now 7 (by omega)
      refine ⟨time, found, offset, ?_, ?_⟩ <;> dsimp only [leastDays, beyondDays] <;> omega
  | lastMonth =>
      obtain ⟨time, found, before⟩ := @DateTime.month_before_of_later now (by omega)
      obtain ⟨least, most⟩ := before.micros
      refine ⟨time, found, before.offset, ?_, ?_⟩ <;> dsimp only [leastDays, beyondDays] <;> omega

end NamedTime

/-- However a name is capitalised and whatever blanks surround it, it has a time. Last month is the same
day and time of the calendar month before, or of that month's last day, 28 to 31 days ago. -/
theorem named_times_ordered {now : DateTime} (late : 2 ≤ now.wall.date.year) :
    ∃ times : NamedTime → DateTime,
      (∀ named text, lowercase (trim text) = named.keyword.toList →
        namedTime text now = .ok (some (times named))) ∧
      (times .lastMonth).Before (times .lastWeek) ∧
      (times .lastWeek).Before (times .yesterday) ∧
      (times .yesterday).Before (times .today) ∧
      (times .today).AtMost now ∧
      now.instant - (times .today).instant < microsPerDay ∧
      (times .lastMonth).IsMonthBefore now ∧
      28 * microsPerDay ≤ now.instant - (times .lastMonth).instant ∧
      now.instant - (times .lastMonth).instant ≤ 31 * microsPerDay := by
  choose times resolved liesBack using NamedTime.resolve_of_late late
  obtain ⟨lastMonth, lastMonthFound, lastMonthBefore⟩ :=
    @DateTime.month_before_of_later now (by omega)
  cases Except.ok.inj (lastMonthFound.symm.trans (resolved .lastMonth))
  obtain ⟨monthLeast, monthMost⟩ := lastMonthBefore.micros
  have today := liesBack .today
  have todayApart := DateTime.instants_apart_same_offset today.offset
  have monthApart := DateTime.instants_apart_same_offset lastMonthBefore.offset
  have ordered {earlier later : NamedTime} (apart : later.beyondDays ≤ earlier.leastDays) :
      (times earlier).Before (times later) :=
    (liesBack earlier).before apart (liesBack later)
  refine ⟨times, ?_, ordered (by decide), ordered (by decide), ordered (by decide), ?_, ?_,
    lastMonthBefore, ?_, ?_⟩
  · intro named text keyword
    rw [namedTime, NamedTime.of_text_iff.mpr keyword]
    dsimp only
    rw [resolved]
    rfl
  · have past := today.least
    apply (DateTime.at_most_iff_same_offset today.offset).mpr
    omega
  · have sameDay : now.wall.micros < (times .today).wall.micros + 1 * microsPerDay := today.beyond
    omega
  · omega
  · omega

/-- On 31 March 2024 at half past three in the afternoon, an hour ahead of UTC, last month is 29 February. -/
theorem named_times_ordered_of_leap_day :
    let now : DateTime :=
      ⟨⟨738975 * microsPerDay + 55800000000, by decide⟩, some ⟨3600000000, by decide⟩⟩
    2 ≤ now.wall.date.year ∧
      ∃ lastMonth, namedTime " Last month".toList now = .ok (some lastMonth) ∧
        lastMonth.wall.date = ⟨2024, 2, 29⟩ ∧
        lastMonth.wall.sinceMidnight = 55800000000 ∧ lastMonth.offset = now.offset := by
  intro now
  have date : now.wall.date = ⟨2024, 3, 31⟩ := by decide +kernel
  have late : 2 ≤ now.wall.date.year := by
    rw [date]
    decide
  obtain ⟨times, named, _, _, _, _, _, before, _⟩ := named_times_ordered late
  have found := named .lastMonth " Last month".toList (by decide +kernel)
  have time : now.wall.sinceMidnight = 55800000000 := by decide +kernel
  refine ⟨late, _, found, ?_, before.time.trans time, before.offset⟩
  obtain ⟨⟨_, _, _, monthKnown, _⟩, month, day⟩ := before.date
  rw [date] at month day
  change 12 * (times .lastMonth).wall.date.year + (times .lastMonth).wall.date.month + 1 = 24291
    at month
  have year : (times .lastMonth).wall.date.year = 2024 := by omega
  have february : (times .lastMonth).wall.date.month = 2 := by omega
  rw [year, february] at day
  exact Date.eq_of_parts year february day

end PriceBoard.Query
