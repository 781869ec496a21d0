import PriceBoard.Decimal.Exact
import PriceBoard.Decimal.Numeral

/-!
# Timelines

Waiting is measured in seconds on a timeline. Programs run on doubles; laws about waiting are stated
on exact rationals.
-/
namespace PriceBoard

inductive QuotientError where
  /-- Of an endless time. -/
  | notANumber
  /-- Beyond the largest double. -/
  | infinite
  deriving DecidableEq, Repr

class Timeline (Time : Type) extends Add Time, Sub Time, Mul Time, Zero Time, LT Time, LE Time where
  decidableLT : DecidableLT Time
  decidableLE : DecidableLE Time
  ofNat : Nat → Time
  ofInt : Int → Time
  /-- The whole part of a quotient, rounded down. -/
  floorQuotient : Time → Time → Except QuotientError Int
  /-- The nearest microsecond, a tie going to the even one. -/
  micros : Time → Int

attribute [reducible, instance] Timeline.decidableLT Timeline.decidableLE

namespace Timeline

def earlier {Time : Type} [Timeline Time] (left right : Time) : Time :=
  if right < left then right else left

/-- The clock after a wait; only a positive wait takes time. -/
def wait {Time : Type} [Timeline Time] (clock delay : Time) : Time :=
  if 0 < delay then clock + delay else clock

end Timeline

instance : Timeline Rat where
  decidableLT := inferInstance
  decidableLE := inferInstance
  zero := 0
  ofNat := fun value => (value : Rat)
  ofInt := fun value => (value : Rat)
  floorQuotient := fun value unit => .ok (value / unit).floor
  micros := fun value => Decimal.roundHalfEven (value * 1000000)

/-- The floor of a quotient is exact, where a floor division of doubles rounds a quotient beyond 2^53. -/
instance : Timeline Float where
  decidableLT := fun left right => inferInstanceAs (Decidable (left < right))
  decidableLE := fun left right => inferInstanceAs (Decidable (left ≤ right))
  zero := 0.0
  ofNat := Float.ofNat
  ofInt := Float.ofInt
  floorQuotient := fun value unit =>
    let quotient := (Decimal.exact value / Decimal.exact unit).floor
    if value.isFinite then
      if (Decimal.ofInteger? quotient).isSome then .ok quotient else .error .infinite
    else .error .notANumber
  micros := fun value => Decimal.roundHalfEven (Decimal.exact value * 1000000)

end PriceBoard
