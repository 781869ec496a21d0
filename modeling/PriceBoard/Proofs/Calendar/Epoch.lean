import PriceBoard.Proofs.Calendar.Month
import Mathlib.Data.Rat.Floor

/-!
# Milliseconds and calendar times

A clock in UTC shows each instant of the years 1 to 9999 as one date and one time of the day. These are the
instants that whole milliseconds lead to; and the milliseconds of any time, in any offset, are the last that
lead to an instant no later than it.
-/
namespace PriceBoard

structure ShowsInstant (date : Date) (time : ℕ) (instant : ℤ) : Prop where
  valid : date.Valid
  inDay : time < microsPerDay
  total : instant = (date.dayNumber * microsPerDay + time : ℕ)

namespace ShowsInstant

variable {date : Date} {time : ℕ} {instant : ℤ}

theorem of_wall (wall : WallTime) : ShowsInstant wall.date wall.sinceMidnight wall.micros where
  valid := wall.date_spec.1
  inDay := Nat.mod_lt _ (by decide)
  total := by rw [wall.date_spec.2]

theorem exists_wall (shows : ShowsInstant date time instant) :
    ∃ wall : WallTime, WallTime.ofMicros? instant = some wall ∧ wall.date = date ∧
      wall.sinceMidnight = time := by
  rw [shows.total]
  exact WallTime.exists_of_date shows.valid shows.inDay

end ShowsInstant

namespace DateTime

/-- The milliseconds of the years 1 to 9999 are those that a date and a time of the day show. -/
theorem in_range_iff_shown {ms : ℤ} :
    MsInRange ms ↔ ∃ date time, ShowsInstant date time (instantOfMs ms) := by
  constructor
  · intro inRange
    obtain ⟨wall, _, micros⟩ := of_epoch_ms_in_range inRange
    rw [← micros]
    exact ⟨_, _, .of_wall wall⟩
  · rintro ⟨date, time, shows⟩
    obtain ⟨wall, found, _, _⟩ := shows.exists_wall
    have bounded := wall.bounded
    have micros := WallTime.of_micros_iff.mp found
    unfold MsInRange
    omega

theorem of_epoch_ms_of_shown {ms : ℤ} {date : Date} {time : ℕ}
    (shows : ShowsInstant date time (instantOfMs ms)) :
    ∃ wall : WallTime, ofEpochMs ms = .ok ⟨wall, some Offset.utc⟩ ∧ wall.date = date ∧
      wall.sinceMidnight = time := by
  obtain ⟨wall, found, sameDate, sameTime⟩ := shows.exists_wall
  refine ⟨wall, ?_, sameDate, sameTime⟩
  rw [instantOfMs] at found
  rw [ofEpochMs, found]

/-- What milliseconds lead to is in UTC, at their instant. -/
theorem of_epoch_ms_found {ms : ℤ} {start : DateTime} (found : ofEpochMs ms = .ok start) :
    start.isAware = true ∧ start.instant = instantOfMs ms := by
  rw [ofEpochMs] at found
  split at found
  · next wall exact =>
      cases found
      exact ⟨rfl, (utc_instant wall).trans (WallTime.of_micros_iff.mp exact)⟩
  · cases found

theorem epoch_ms_monotone {moment later : DateTime} (ordered : moment.instant ≤ later.instant) :
    moment.epochMs ≤ later.epochMs :=
  (le_epoch_ms_iff _ later).mpr (((le_epoch_ms_iff _ moment).mp le_rfl).trans ordered)

/-- The quotient is rounded down on both sides of the epoch. -/
theorem epoch_ms_eq_floor (moment : DateTime) :
    moment.epochMs = ⌊((moment.instant - epochMicros : ℤ) : ℚ) / 1000⌋ :=
  (Rat.floor_intCast_div_natCast (moment.instant - epochMicros) 1000).symm

/-- A time is shown by its own clock as much later than in UTC as the clock is ahead. -/
theorem shows_own_instant (moment : DateTime) :
    ShowsInstant moment.wall.date moment.wall.sinceMidnight
      (moment.instant + (moment.offset.getD Offset.utc).micros) := by
  rw [instant, sub_add_cancel]
  exact .of_wall moment.wall

/-- Milliseconds since the epoch lead to the date and the time at which UTC shows their instant, and back;
without such a date they lead to none. The milliseconds of a time are the last that lead to a time no later
than it, whatever its offset, and do not decrease as time goes on; a time without an offset has those of
UTC. -/
theorem epoch_ms_floors_instants (ms : ℤ) (moment later : DateTime) :
    ShowsInstant ⟨1970, 1, 1⟩ 0 (instantOfMs 0) ∧
    (∀ date time, ShowsInstant date time (instantOfMs ms) →
      ∃ start, ofEpochMs ms = .ok start ∧ start.offset = some Offset.utc ∧ start.wall.date = date ∧
        start.wall.sinceMidnight = time ∧ start.epochMs = ms) ∧
    (ofEpochMs ms = .error .outOfRange ↔ ¬∃ date time, ShowsInstant date time (instantOfMs ms)) ∧
    (moment.isAware = true → ∀ start, ofEpochMs ms = .ok start →
      (ms ≤ moment.epochMs ↔ start.AtMost moment)) ∧
    ShowsInstant moment.wall.date moment.wall.sinceMidnight
      (moment.instant + (moment.offset.getD Offset.utc).micros) ∧
    (moment.instant ≤ later.instant → moment.epochMs ≤ later.epochMs) ∧
    moment.epochMs = ⌊((moment.instant - instantOfMs 0 : ℤ) : ℚ) / 1000⌋ ∧
    (moment.offset = none → moment.epochMs = (DateTime.mk moment.wall (some Offset.utc)).epochMs) := by
  refine ⟨⟨by decide, by decide, by decide⟩, ?_, ?_, ?_, moment.shows_own_instant, epoch_ms_monotone, ?_, ?_⟩
  · intro date time shows
    obtain ⟨wall, found, sameDate, sameTime⟩ := of_epoch_ms_of_shown shows
    exact ⟨_, found, rfl, sameDate, sameTime, epoch_ms_of_instant (of_epoch_ms_found found).2⟩
  · rw [of_epoch_ms_error_iff, in_range_iff_shown]
  · intro aware start found
    obtain ⟨startAware, instant⟩ := of_epoch_ms_found found
    rw [at_most_iff_instant startAware aware, instant]
    exact le_epoch_ms_iff ms moment
  · rw [epoch_ms_eq_floor, instantOfMs, zero_mul, add_zero]
  · intro naive
    rw [epochMs, epochMs, instant, instant, naive]
    rfl

/-- Half a millisecond before 1970, on a clock ahead of UTC. -/
def beforeEpoch : DateTime := ⟨⟨62135617499999500, by decide⟩, some ⟨20700000000, by decide⟩⟩

theorem epoch_ms_floors_instants_before_epoch :
    ShowsInstant ⟨1969, 12, 31⟩ 86399999000 (instantOfMs (-1)) ∧ beforeEpoch.isAware = true ∧
      ∃ start, ofEpochMs (-1) = .ok start ∧ start.wall.date = ⟨1969, 12, 31⟩ ∧ start.epochMs = -1 ∧
        start.AtMost beforeEpoch := by
  have shows : ShowsInstant ⟨1969, 12, 31⟩ 86399999000 (instantOfMs (-1)) :=
    ⟨by decide, by decide, by decide⟩
  obtain ⟨_, leads, _, floors, _⟩ := epoch_ms_floors_instants (-1) beforeEpoch beforeEpoch
  obtain ⟨start, found, _, date, _, back⟩ := leads _ _ shows
  have floored : -1 ≤ beforeEpoch.epochMs := by decide
  exact ⟨shows, rfl, start, found, date, back, (floors rfl start found).mp floored⟩

end DateTime

end PriceBoard
