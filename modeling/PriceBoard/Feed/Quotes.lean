import PriceBoard.Calendar.DateTime
import PriceBoard.Json.Value

/-!
# Quotes

The quotes hold the last value of each configured feed that has reported. The last update wins,
whatever its time. The quotes are complete when as many feeds have reported as are configured.
-/
namespace PriceBoard.Feed

structure Quote where
  feed : String
  value : Float
  updatedAt : DateTime

structure Quotes where
  feeds : List String
  reported : List (String × Quote)

/-- A configured feed without a value, where the values seemed complete. -/
structure MissingValue where
  feed : String
  deriving DecidableEq, Repr

namespace Quotes

def empty (feeds : List String) : Quotes := ⟨feeds, []⟩

/-- Sets a feed's value, and tells whether the feed is configured. -/
def update (quotes : Quotes) (feed : String) (value : Float) (time : DateTime) : Quotes × Bool :=
  if quotes.feeds.contains feed then
    ({ quotes with reported := setMember feed ⟨feed, value, time⟩ quotes.reported }, true)
  else (quotes, false)

def quote? (quotes : Quotes) (feed : String) : Option Quote := quotes.reported.lookup feed

def valuesOf (quotes : Quotes) : List String → Except MissingValue (List (String × Float))
  | [] => .ok []
  | feed :: feeds =>
    match quotes.quote? feed with
    | none => .error ⟨feed⟩
    | some quote => (quotes.valuesOf feeds).map ((feed, quote.value) :: ·)

/-- The value of every configured feed, or nothing while too few have reported. -/
def completeValues (quotes : Quotes) : Except MissingValue (Option (List (String × Float))) :=
  if quotes.reported.length < quotes.feeds.length then .ok none
  else (quotes.valuesOf quotes.feeds).map some

/-- The configured feeds without a quote. -/
def missing (quotes : Quotes) : List String :=
  quotes.feeds.filter fun feed => (quotes.quote? feed).isNone

end Quotes
end PriceBoard.Feed
