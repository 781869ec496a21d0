import PriceBoard.Calendar.DateTime
import PriceBoard.Decimal.Integer

/-!
# Written dates and times

`YYYY-MM-DDTHH:MM:SS`, then six digits of fraction when the time is not a whole second, then the
offset if it is known. An offset shows its seconds, and their fraction, only when they are not zero.
-/
namespace PriceBoard

open PriceBoard.Decimal

namespace Iso

def dateDigits (date : Date) : List Char :=
  paddedDigits 4 date.year ++ '-' :: paddedDigits 2 date.month ++ '-' :: paddedDigits 2 date.day

def minuteDigits (micros : Nat) : List Char :=
  paddedDigits 2 (micros / 3600000000) ++ ':' :: paddedDigits 2 (micros / 60000000 % 60)

def secondDigits (micros : Nat) : List Char := ':' :: paddedDigits 2 (micros / 1000000 % 60)

def fractionDigits (micros : Nat) : List Char :=
  if micros % 1000000 = 0 then [] else '.' :: paddedDigits 6 (micros % 1000000)

def clockDigits (micros : Nat) : List Char :=
  minuteDigits micros ++ secondDigits micros ++ fractionDigits micros

def offsetDigits (offset : Offset) : List Char :=
  let size := offset.micros.natAbs
  (if offset.micros < 0 then '-' else '+') :: minuteDigits size ++
    (if size % 60000000 = 0 then [] else secondDigits size ++ fractionDigits size)

end Iso

namespace DateTime

open Iso

def isoWith (separator : Char) (moment : DateTime) : List Char :=
  dateDigits moment.wall.date ++ separator :: clockDigits moment.wall.sinceMidnight ++
    (match moment.offset with
      | some offset => offsetDigits offset
      | none => [])

def isoDigits (moment : DateTime) : List Char := moment.isoWith 'T'

def isoText (moment : DateTime) : String := String.ofList moment.isoDigits

/-- As above with a blank between date and time, as log records show it. -/
def spacedText (moment : DateTime) : String := String.ofList (moment.isoWith ' ')

end DateTime
end PriceBoard
