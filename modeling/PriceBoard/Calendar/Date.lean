/-!
# Dates

The proleptic Gregorian calendar of the years 1 to 9999. A date and its day number, counted from
`0001-01-01` as day 0, determine each other.
-/
namespace PriceBoard

def isLeap (year : Nat) : Bool := year % 4 = 0 && (year % 100 ≠ 0 || year % 400 = 0)

def monthLengths (leap : Bool) : List Nat :=
  [31, if leap then 29 else 28, 31, 30, 31, 30, 31, 31, 30, 31, 30, 31]

/-- The days of a month counted from 1. -/
def monthLength (year month : Nat) : Nat := (monthLengths (isLeap year)).getD (month - 1) 0

/-- The days of the years 1 up to, and without, `year`. -/
def daysBeforeYear (year : Nat) : Nat :=
  365 * (year - 1) + (year - 1) / 4 - (year - 1) / 100 + (year - 1) / 400

def daysBeforeMonth (year month : Nat) : Nat :=
  ((monthLengths (isLeap year)).take (month - 1)).foldl Nat.add 0

/-- The number of days in the years 1 to 9999. -/
def dayLimit : Nat := 3652059

structure Date where
  year : Nat
  month : Nat
  day : Nat
  deriving DecidableEq, Repr

namespace Date

def Valid (date : Date) : Prop :=
  1 ≤ date.year ∧ date.year ≤ 9999 ∧ 1 ≤ date.month ∧ date.month ≤ 12 ∧ 1 ≤ date.day ∧
    date.day ≤ monthLength date.year date.month

instance (date : Date) : Decidable date.Valid := inferInstanceAs (Decidable (_ ∧ _))

def make? (year month day : Nat) : Option Date :=
  if (Date.mk year month day).Valid then some ⟨year, month, day⟩ else none

def dayNumber (date : Date) : Nat :=
  daysBeforeYear date.year + daysBeforeMonth date.year date.month + (date.day - 1)

/-- The year a day lies in, with the day's number in that year. Cycles of 400, 100 and 4 years are
taken off in turn; the last cycle of a hundred years and the last year of four may be a day longer. -/
def splitYear (days : Nat) : Nat × Nat :=
  let era := days / 146097
  let inEra := days % 146097
  let century := min (inEra / 36524) 3
  let inCentury := inEra - century * 36524
  let cycle := inCentury / 1461
  let inCycle := inCentury % 1461
  let year := min (inCycle / 365) 3
  (400 * era + 100 * century + 4 * cycle + year + 1, inCycle - year * 365)

/-- Walks the months from `month` on until the day fits. -/
def splitMonth (month : Nat) : List Nat → Nat → Nat × Nat
  | [], day => (month, day)
  | length :: lengths, day =>
    if day < length then (month, day) else splitMonth (month + 1) lengths (day - length)

def ofDayNumber (days : Nat) : Date :=
  match splitYear days with
  | (year, inYear) =>
    match splitMonth 1 (monthLengths (isLeap year)) inYear with
    | (month, day) => ⟨year, month, day + 1⟩

/-- Monday is 0. Day 0 was a Monday. -/
def weekday (date : Date) : Nat := date.dayNumber % 7

/-- The Monday of the week that holds the year's first Thursday, as a day number shifted by seven. -/
def firstMonday (year : Nat) : Nat :=
  let newYear := daysBeforeYear year
  let weekday := newYear % 7
  if weekday ≤ 3 then newYear + 7 - weekday else newYear + 14 - weekday

/-- A year has 53 weeks when it begins on a Thursday, or on a Wednesday in a leap year. -/
def hasWeek53 (year : Nat) : Bool :=
  let weekday := daysBeforeYear year % 7
  weekday = 3 || (weekday = 2 && isLeap year)

/-- The date of a week and weekday, both counted from 1. -/
def ofWeek? (year week day : Nat) : Option Date :=
  if 1 ≤ year ∧ 1 ≤ week ∧ (week ≤ 52 ∨ week = 53 ∧ hasWeek53 year) ∧ 1 ≤ day ∧ day ≤ 7 then
    let shifted := firstMonday year + 7 * (week - 1) + (day - 1)
    if 7 ≤ shifted ∧ shifted - 7 < dayLimit then some (ofDayNumber (shifted - 7)) else none
  else none

end Date
end PriceBoard
