import PriceBoard.Calendar.DateTime

/-!
# Instants and whole milliseconds

Times whose offsets are known are ordered by the instants they name. The whole milliseconds of a time
are the greatest number of milliseconds whose instant is not after it, so the milliseconds of a cutoff
may stand for the cutoff wherever only whole milliseconds are compared with it.
-/
namespace PriceBoard

theorem WallTime.eq_of_micros {left right : WallTime} (same : left.micros = right.micros) :
    left = right := by
  cases left
  cases right
  cases same
  rfl

theorem WallTime.of_micros_iff {micros : Int} {wall : WallTime} :
    ofMicros? micros = some wall ↔ (wall.micros : Int) = micros := by
  have bounded := wall.bounded
  rw [ofMicros?]
  constructor
  · intro found
    split at found
    · next fits =>
        rw [← Option.some.inj found]
        exact Int.toNat_of_nonneg fits.1
    · exact nomatch found
  · rintro rfl
    exact dif_pos ⟨Int.natCast_nonneg _, bounded⟩

theorem WallTime.of_micros_of_fits {micros : Int} (nonnegative : 0 ≤ micros)
    (bounded : micros < (dayLimit * microsPerDay : Nat)) :
    ∃ wall : WallTime, ofMicros? micros = some wall ∧ (wall.micros : Int) = micros := by
  have inRange : micros.toNat < dayLimit * microsPerDay := by omega
  have same : (micros.toNat : Int) = micros := Int.toNat_of_nonneg nonnegative
  exact ⟨⟨micros.toNat, inRange⟩, of_micros_iff.mpr same, same⟩

theorem WallTime.of_micros_none_iff {micros : Int} :
    ofMicros? micros = none ↔ ¬(0 ≤ micros ∧ micros < (dayLimit * microsPerDay : Nat)) := by
  rw [ofMicros?]
  constructor
  · intro none fits
    split at none
    · exact nomatch none
    · omega
  · intro outside
    apply dif_neg
    omega

def WallTime.floorMs (wall : WallTime) : WallTime :=
  ⟨wall.micros - wall.micros % 1000, Nat.lt_of_le_of_lt (Nat.sub_le _ _) wall.bounded⟩

namespace DateTime

/-- The first time is known to be no later than the second. -/
def AtMost (first second : DateTime) : Prop :=
  first.compare second = .ok .lt ∨ first.compare second = .ok .eq

def Before (first second : DateTime) : Prop := first.compare second = .ok .lt

theorem compare_aware {left right : DateTime} (leftAware : left.isAware = true)
    (rightAware : right.isAware = true) :
    left.compare right = .ok (Ord.compare left.instant right.instant) := by
  obtain ⟨leftOffset, leftKnown⟩ := Option.isSome_iff_exists.mp leftAware
  obtain ⟨rightOffset, rightKnown⟩ := Option.isSome_iff_exists.mp rightAware
  simp only [compare, leftKnown, rightKnown]

theorem at_most_iff_instant {left right : DateTime} (leftAware : left.isAware = true)
    (rightAware : right.isAware = true) : left.AtMost right ↔ left.instant ≤ right.instant := by
  simp only [AtMost, compare_aware leftAware rightAware, Except.ok.injEq, Int.compare_eq_lt,
    Int.compare_eq_eq]
  omega

/-- Clocks with the same offset are ordered by what they show. -/
theorem compare_same_offset {left right : DateTime} (same : left.offset = right.offset) :
    left.compare right = .ok (Ord.compare left.wall.micros right.wall.micros) := by
  cases known : right.offset with
  | none => simp only [compare, same, known]
  | some offset =>
      rw [compare_aware (by rw [isAware, same, known]; rfl) (by rw [isAware, known]; rfl), instant,
        instant, same]
      generalize (right.offset.getD Offset.utc).micros = micros
      rcases Nat.lt_trichotomy left.wall.micros right.wall.micros with earlier | equal | later
      · rw [Nat.compare_eq_lt.mpr earlier, Int.compare_eq_lt.mpr (by omega)]
      · rw [Nat.compare_eq_eq.mpr equal, Int.compare_eq_eq.mpr (by omega)]
      · rw [Nat.compare_eq_gt.mpr later, Int.compare_eq_gt.mpr (by omega)]

section

variable {left right : DateTime} (same : left.offset = right.offset)

include same

theorem before_iff_same_offset : left.Before right ↔ left.wall.micros < right.wall.micros := by
  rw [Before, compare_same_offset same, Except.ok.injEq, Nat.compare_eq_lt]

theorem at_most_iff_same_offset : left.AtMost right ↔ left.wall.micros ≤ right.wall.micros := by
  rw [AtMost, compare_same_offset same, Except.ok.injEq, Except.ok.injEq, Nat.compare_eq_lt,
    Nat.compare_eq_eq]
  omega

/-- Between clocks with the same offset as much time passes as they show. -/
theorem instants_apart_same_offset :
    right.instant - left.instant = right.wall.micros - left.wall.micros := by
  rw [instant, instant, same]
  omega

end

def instantOfMs (ms : Int) : Int := epochMicros + ms * 1000

theorem le_epoch_ms_iff (ms : Int) (moment : DateTime) :
    ms ≤ moment.epochMs ↔ instantOfMs ms ≤ moment.instant := by
  unfold epochMs instantOfMs
  omega

theorem epoch_ms_le_of_instant_le (ms : Int) (moment : DateTime)
    (ordered : moment.instant ≤ instantOfMs ms) : moment.epochMs ≤ ms := by
  unfold epochMs
  unfold instantOfMs at ordered
  omega

theorem epoch_ms_of_instant {ms : Int} {moment : DateTime} (same : moment.instant = instantOfMs ms) :
    moment.epochMs = ms := by
  apply Int.le_antisymm
  · exact epoch_ms_le_of_instant_le ms moment (Int.le_of_eq same)
  · exact (le_epoch_ms_iff ms moment).mpr (Int.le_of_eq same.symm)

def MsInRange (ms : Int) : Prop :=
  0 ≤ instantOfMs ms ∧ instantOfMs ms < (dayLimit * microsPerDay : Nat)

theorem of_epoch_ms_in_range {ms : Int} (inRange : MsInRange ms) :
    ∃ wall : WallTime, ofEpochMs ms = .ok ⟨wall, some Offset.utc⟩ ∧
      (wall.micros : Int) = instantOfMs ms := by
  obtain ⟨wall, found, micros⟩ := WallTime.of_micros_of_fits inRange.1 inRange.2
  refine ⟨wall, ?_, micros⟩
  rw [instantOfMs] at found
  rw [ofEpochMs, found]

theorem of_epoch_ms_error_iff {ms : Int} : ofEpochMs ms = .error .outOfRange ↔ ¬MsInRange ms := by
  constructor
  · intro failed inRange
    obtain ⟨wall, found, _⟩ := of_epoch_ms_in_range inRange
    exact nomatch failed.symm.trans found
  · intro outside
    have none := WallTime.of_micros_none_iff.mpr outside
    rw [instantOfMs] at none
    rw [ofEpochMs, none]

theorem utc_instant (wall : WallTime) :
    (DateTime.mk wall (some Offset.utc)).instant = wall.micros := by
  simp [instant, Offset.utc]

theorem utc_epoch_ms_in_range (wall : WallTime) :
    MsInRange (DateTime.mk wall (some Offset.utc)).epochMs := by
  have bounded := wall.bounded
  have instant := utc_instant wall
  unfold MsInRange instantOfMs epochMs
  rw [instant]
  unfold epochMicros dayLimit microsPerDay at *
  omega

theorem utc_floor_ms (wall : WallTime) :
    (wall.floorMs.micros : Int) = instantOfMs (DateTime.mk wall (some Offset.utc)).epochMs := by
  have instant := utc_instant wall
  have micros : wall.floorMs.micros = wall.micros - wall.micros % 1000 := rfl
  unfold instantOfMs epochMs
  rw [instant, micros]
  unfold epochMicros microsPerDay
  omega

/-! ### Going back -/

theorem span_of_micros_cases (micros : Int) :
    (∃ span, Span.ofMicros micros = .ok span ∧ span.micros = micros) ∨
      Span.ofMicros micros = .error .outOfRange := by
  rw [Span.ofMicros]
  split
  · exact .inl ⟨_, rfl, rfl⟩
  · exact .inr rfl

/-- No span that reaches back from a moment to the year 1 is too long. -/
theorem span_of_micros_of_fits {moment : DateTime} {micros : Nat}
    (fits : micros ≤ moment.wall.micros) :
    ∃ span, Span.ofMicros (micros : Int) = .ok span ∧ span.micros = micros := by
  have bounded := moment.wall.bounded
  have inSpan : -(999999999 * microsPerDay : Int) ≤ (micros : Int) ∧
      (micros : Int) < 1000000000 * microsPerDay := by
    unfold dayLimit microsPerDay at *
    omega
  exact ⟨⟨micros, inSpan⟩, dif_pos inSpan, rfl⟩

theorem minus_of_fits {moment : DateTime} {span : Span} (back : 0 ≤ span.micros)
    (fits : span.micros ≤ moment.wall.micros) :
    ∃ earlier, moment.minus span = .ok earlier ∧
      (earlier.wall.micros : Int) = moment.wall.micros - span.micros ∧
      earlier.offset = moment.offset := by
  have bounded := moment.wall.bounded
  have nonnegative : 0 ≤ (moment.wall.micros : Int) - span.micros := by omega
  obtain ⟨wall, found, micros⟩ := WallTime.of_micros_of_fits nonnegative (by omega)
  refine ⟨{ moment with wall }, ?_, micros, rfl⟩
  rw [minus, atWall, found]

/-- A span that does not reach back beyond the year 1 leads to an earlier time. -/
theorem minus_micros_of_fits {moment : DateTime} {micros : Nat} (fits : micros ≤ moment.wall.micros) :
    ∃ earlier, (Span.ofMicros (micros : Int)).bind moment.minus = .ok earlier ∧
      (earlier.wall.micros : Int) = moment.wall.micros - micros ∧ earlier.offset = moment.offset := by
  obtain ⟨span, spanIs, same⟩ := span_of_micros_of_fits fits
  rw [spanIs, ← same]
  exact minus_of_fits (by omega) (by omega)

theorem minus_of_exceeds {moment : DateTime} {span : Span}
    (exceeds : (moment.wall.micros : Int) < span.micros) :
    moment.minus span = .error .outOfRange := by
  have none : WallTime.ofMicros? (moment.wall.micros - span.micros) = none :=
    WallTime.of_micros_none_iff.mpr (by omega)
  rw [minus, atWall, none]

end DateTime

end PriceBoard
