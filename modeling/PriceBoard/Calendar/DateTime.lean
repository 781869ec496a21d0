import PriceBoard.Calendar.Date

/-!
# Points in time

A date and time is what a wall clock shows, to the microsecond, with the clock's offset from UTC if
it is known. Two such times can be ordered when both offsets are known, by the instants they name,
or when neither is.
-/
namespace PriceBoard

def microsPerDay : Nat := 86400000000

/-- A wall clock's reading, in microseconds since `0001-01-01T00:00:00`. -/
structure WallTime where
  micros : Nat
  bounded : micros < dayLimit * microsPerDay
  deriving DecidableEq

namespace WallTime

def ofMicros? (micros : Int) : Option WallTime :=
  if bounded : 0 ≤ micros ∧ micros.toNat < dayLimit * microsPerDay then
    some ⟨micros.toNat, bounded.2⟩
  else none

def date (wall : WallTime) : Date := Date.ofDayNumber (wall.micros / microsPerDay)

/-- Microseconds since midnight. -/
def sinceMidnight (wall : WallTime) : Nat := wall.micros % microsPerDay

def midnight (wall : WallTime) : WallTime :=
  ⟨wall.micros - wall.sinceMidnight, Nat.lt_of_le_of_lt (Nat.sub_le _ _) wall.bounded⟩

def ofDate? (date : Date) (sinceMidnight : Nat) : Option WallTime :=
  ofMicros? (date.dayNumber * microsPerDay + sinceMidnight : Nat)

end WallTime

/-- Less than a day ahead of UTC or behind it, in microseconds. -/
structure Offset where
  micros : Int
  bounded : -(microsPerDay : Int) < micros ∧ micros < microsPerDay
  deriving DecidableEq

namespace Offset

def utc : Offset := ⟨0, by decide⟩

def ofMicros? (micros : Int) : Option Offset :=
  if bounded : -(microsPerDay : Int) < micros ∧ micros < microsPerDay then some ⟨micros, bounded⟩
  else none

end Offset

structure DateTime where
  wall : WallTime
  offset : Option Offset
  deriving DecidableEq

inductive TimeError where
  /-- Beyond the years 1 to 9999, or a span of a thousand million days or more. -/
  | outOfRange
  /-- The month before January of the year 1. -/
  | noSuchYear
  /-- One clock's offset is known and the other's is not. -/
  | notComparable
  deriving DecidableEq, Repr

/-- A span of time in microseconds, of less than a thousand million days. -/
structure Span where
  micros : Int
  bounded : -(999999999 * microsPerDay : Int) ≤ micros ∧ micros < 1000000000 * microsPerDay
  deriving DecidableEq

def Span.ofMicros (micros : Int) : Except TimeError Span :=
  if bounded : -(999999999 * microsPerDay : Int) ≤ micros ∧ micros < 1000000000 * microsPerDay then
    .ok ⟨micros, bounded⟩
  else .error .outOfRange

namespace DateTime

/-- Microseconds from `0001-01-01T00:00:00` UTC. An unknown offset counts as UTC. -/
def instant (moment : DateTime) : Int :=
  moment.wall.micros - (moment.offset.getD Offset.utc).micros

def isAware (moment : DateTime) : Bool := moment.offset.isSome

def compare (left right : DateTime) : Except TimeError Ordering :=
  match left.offset, right.offset with
  | none, none => .ok (Ord.compare left.wall.micros right.wall.micros)
  | some _, some _ => .ok (Ord.compare left.instant right.instant)
  | _, _ => .error .notComparable

def atWall (moment : DateTime) (micros : Int) : Except TimeError DateTime :=
  match WallTime.ofMicros? micros with
  | some wall => .ok { moment with wall }
  | none => .error .outOfRange

def minus (moment : DateTime) (span : Span) : Except TimeError DateTime :=
  moment.atWall (moment.wall.micros - span.micros)

def plus (moment : DateTime) (span : Span) : Except TimeError DateTime :=
  moment.atWall (moment.wall.micros + span.micros)

def plusMicros (moment : DateTime) (micros : Int) : Except TimeError DateTime :=
  (Span.ofMicros micros).bind moment.plus

/-- A time without an offset is taken as UTC. -/
def assumeUtc (moment : DateTime) : DateTime :=
  { moment with offset := some (moment.offset.getD Offset.utc) }

/-- The same instant on a clock that shows UTC. -/
def toUtc (moment : DateTime) : Except TimeError DateTime :=
  match WallTime.ofMicros? moment.instant with
  | some wall => .ok ⟨wall, some Offset.utc⟩
  | none => .error .outOfRange

/-- `1970-01-01T00:00:00` as a wall clock's reading. -/
def epochMicros : Int := 719162 * microsPerDay

/-- Whole milliseconds since the epoch, rounded down. -/
def epochMs (moment : DateTime) : Int := (moment.instant - epochMicros) / 1000

def ofEpochMs (ms : Int) : Except TimeError DateTime :=
  match WallTime.ofMicros? (epochMicros + ms * 1000) with
  | some wall => .ok ⟨wall, some Offset.utc⟩
  | none => .error .outOfRange

def midnight (moment : DateTime) : DateTime := { moment with wall := moment.wall.midnight }

/-- The same day and time in the month before; a day the month does not have becomes its last. -/
def monthBefore (moment : DateTime) : Except TimeError DateTime :=
  let date := moment.wall.date
  let (year, month) := if date.month = 1 then (date.year - 1, 12) else (date.year, date.month - 1)
  if year = 0 then .error .noSuchYear
  else
    let date := Date.mk year month (min date.day (monthLength year month))
    moment.atWall (date.dayNumber * microsPerDay + moment.wall.sinceMidnight : Nat)

end DateTime
end PriceBoard
