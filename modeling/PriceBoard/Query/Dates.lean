import PriceBoard.Calendar.IsoReader
import PriceBoard.Text.Case

/-!
# Dates in clauses

A date is one of four phrases relative to the present, or a written date. Quotation marks in it do
not count, and a written time without an offset is in UTC.
-/
namespace PriceBoard.Query

open PriceBoard.Text

inductive NamedTime where
  | today
  | yesterday
  | lastWeek
  | lastMonth
  deriving DecidableEq, Repr

namespace NamedTime

def all : List NamedTime := [.today, .yesterday, .lastWeek, .lastMonth]

def keyword : NamedTime → String
  | .today => "today"
  | .yesterday => "yesterday"
  | .lastWeek => "last week"
  | .lastMonth => "last month"

def ofText? (text : List Char) : Option NamedTime :=
  let keyword := String.ofList (lowercase (trim text))
  all.find? (·.keyword = keyword)

def days (count : Nat) : Except TimeError Span := Span.ofMicros (count * microsPerDay : Nat)

def resolve (now : DateTime) : NamedTime → Except TimeError DateTime
  | .today => .ok now.midnight
  | .yesterday => (days 1).bind now.midnight.minus
  | .lastWeek => (days 7).bind now.minus
  | .lastMonth => now.monthBefore

end NamedTime

def namedTime (text : List Char) (now : DateTime) : Except TimeError (Option DateTime) :=
  match NamedTime.ofText? text with
  | none => .ok none
  | some fuzzy => (fuzzy.resolve now).map some

def isQuote (char : Char) : Bool := char = '\'' || char = '"'

def readDate (text : List Char) (now : DateTime) : Except TimeError (Option DateTime) :=
  let text := trim (text.filter (!isQuote ·))
  match NamedTime.ofText? text with
  | some fuzzy => (fuzzy.resolve now).map some
  | none => .ok ((Iso.readDateTime? (uppercase text)).map (·.assumeUtc))

end PriceBoard.Query
