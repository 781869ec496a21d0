import PriceBoard.Calendar.Iso
import PriceBoard.Decimal.Numeral

/-!
# Reading dates and times

A date is `YYYY-MM-DD`, `YYYYMMDD`, or a week date `YYYY-Www`, `YYYY-Www-D`, `YYYYWww`, `YYYYWwwD`.
Any one character may follow, and then a time: two digits each of hours, minutes and seconds, with
colons throughout or not at all, and a fraction after a point or comma. An offset comes last: `Z`, or
a sign and the same fields.
-/
namespace PriceBoard.Iso

open PriceBoard.Decimal

/-- The value of the first `count` characters, all ASCII digits, and what follows them. -/
def takeDigits? (count : Nat) (text : List Char) : Option (Nat × List Char) :=
  let digits := text.take count
  if digits.length = count ∧ digits.all isAsciiDigit then
    some (ofDigits (digits.map asciiValue), text.drop count)
  else none

/-- What follows a dash, where dashes are in use. -/
def skipDash? (dashed : Bool) (text : List Char) : Option (List Char) :=
  if dashed then
    match text with
    | '-' :: rest => some rest
    | _ => none
  else some text

def readWeek? (dashed : Bool) (year : Nat) (text : List Char) : Option Date := do
  let (week, rest) ← takeDigits? 2 text
  if rest.isEmpty then Date.ofWeek? year week 1
  else
    let rest ← skipDash? dashed rest
    let (day, _) ← takeDigits? 1 rest
    Date.ofWeek? year week day

def readDate? (text : List Char) : Option Date := do
  let (year, rest) ← takeDigits? 4 text
  let dashed := rest.head? = some '-'
  let rest := if dashed then rest.drop 1 else rest
  match rest with
  | 'W' :: rest => readWeek? dashed year rest
  | _ =>
    let (month, rest) ← takeDigits? 2 rest
    let rest ← skipDash? dashed rest
    let (day, _) ← takeDigits? 2 rest
    Date.make? year month day

/-- How many characters the date takes up.

A week date may or may not name its day. With dashes a digit two places on means that the dash
before it is the separator; without dashes the parity of the run of digits tells, since the fields of
a time come in pairs. -/
def dateLength? (text : List Char) : Option Nat :=
  if text.length < 7 then none
  else if text.length = 7 then some 7
  else if text[4]? = some '-' then
    if text[5]? = some 'W' then
      if text[8]? = some '-' then
        if text.length = 9 then none
        else if (text[10]?).any isAsciiDigit then some 8
        else some 10
      else some 8
    else some 10
  else if text[4]? = some 'W' then
    let stop := 7 + ((text.drop 7).takeWhile isAsciiDigit).length
    if stop < 9 then some stop else if stop % 2 = 0 then some 7 else some 8
  else some 8

/-- How a run of clock fields ended. -/
inductive ClockEnd where
  /-- At the end of its text. -/
  | complete
  /-- Before its end; this is harmless where an offset follows. -/
  | leftOver
  deriving DecidableEq

structure ClockFields where
  hour : Nat
  minute : Nat
  second : Nat
  micros : Nat

/-- A fraction is cut to six digits. Anything but digits may follow six of them, not fewer. -/
def readFraction? (text : List Char) : Option (Nat × ClockEnd) :=
  let count := min text.length 6
  match takeDigits? count text with
  | none => none
  | some (value, rest) =>
    let rest := rest.dropWhile isAsciiDigit
    some (value * Decimal.tenTo (6 - count), if rest.isEmpty then .complete else .leftOver)

/-- Fields of two digits, at most `fields` of them, and then a fraction. `colons` says whether colons
separate them, once the first field has shown it. -/
def readFields? : (fields : Nat) → Option Bool → List Char → Option (List Nat × Nat × ClockEnd)
  | 0, _, text => (readFraction? text).map fun (micros, ending) => ([], micros, ending)
  | fields + 1, colons, text =>
    match takeDigits? 2 text with
    | none => none
    | some (value, []) => some ([value], 0, .complete)
    | some (value, [last]) => if last.toNat < 128 then some ([value], 0, .leftOver) else none
    | some (value, next :: rest) =>
      let colons := colons.getD (next = ':')
      let more :=
        if colons && next = ':' then readFields? fields (some true) rest
        else if next = '.' || next = ',' then
          (readFraction? rest).map fun (micros, ending) => ([], micros, ending)
        else if !colons then readFields? fields (some false) (next :: rest)
        else none
      more.map fun (values, micros, ending) => (value :: values, micros, ending)

def readClock? (text : List Char) : Option (ClockFields × ClockEnd) :=
  (readFields? 3 none text).map fun (values, micros, ending) =>
    (⟨values.getD 0 0, values.getD 1 0, values.getD 2 0, micros⟩, ending)

def isOffsetMark (char : Char) : Bool := char = '+' || char = '-' || char = 'Z'

/-- An offset of no whole second is UTC, whatever its fraction. -/
def offsetOf? (negative : Bool) (fields : ClockFields) : Option Offset :=
  let seconds := fields.hour * 3600 + fields.minute * 60 + fields.second
  if seconds = 0 then some Offset.utc
  else
    let micros : Int := seconds * 1000000 + fields.micros
    Offset.ofMicros? (if negative then -micros else micros)

/-- Microseconds since midnight. -/
def timeOfDay? (fields : ClockFields) : Option Nat :=
  if fields.hour < 24 ∧ fields.minute < 60 ∧ fields.second < 60 then
    some ((fields.hour * 3600 + fields.minute * 60 + fields.second) * 1000000 + fields.micros)
  else none

/-- A time of day, in microseconds, and its offset. -/
def readTime? (text : List Char) : Option (Nat × Option Offset) := do
  -- a mark in the first place leaves no room for the hour
  let (fields, ending) ← readClock? (text.takeWhile fun char => !isOffsetMark char)
  let micros ← timeOfDay? fields
  match text.dropWhile fun char => !isOffsetMark char with
  | [] => if ending = .complete then some (micros, none) else none
  | 'Z' :: rest => if rest.isEmpty then some (micros, some Offset.utc) else none
  | sign :: rest =>
    match ← readClock? rest with
    | (fields, .complete) => (offsetOf? (sign = '-') fields).map fun offset => (micros, some offset)
    | (_, .leftOver) => none

/-- The time of a date alone is midnight. -/
def readDateTime? (text : List Char) : Option DateTime := do
  let length ← dateLength? text
  let date ← readDate? (text.take length)
  let (micros, offset) ←
    match text.drop length with
    | [] => some (0, none)
    | _ :: rest => readTime? rest
  (WallTime.ofDate? date micros).map fun wall => ⟨wall, offset⟩

end PriceBoard.Iso
