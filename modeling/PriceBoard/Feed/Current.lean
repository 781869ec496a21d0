import PriceBoard.Feed.Quotes
import PriceBoard.Snapshot.Basic

/-!
# The snapshot of the moment

Taken from the quotes once every feed has one. The clock is read only then.
-/
namespace PriceBoard.Feed

inductive TakeError where
  | missingValue (error : MissingValue)
  | time (error : TimeError)
  deriving DecidableEq, Repr

def Quotes.take (quotes : Quotes) (now : Except TimeError DateTime) :
    Except TakeError (Option Snapshot) :=
  match quotes.completeValues with
  | .error error => .error (.missingValue error)
  | .ok none => .ok none
  | .ok (some values) =>
    ((now.bind fun now => Snapshot.make now values).mapError .time).map some

end PriceBoard.Feed
