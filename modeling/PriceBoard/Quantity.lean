import PriceBoard.Timeline

/-!
# Quantities as written

A whole number stays whole under arithmetic with whole numbers; with a fraction it becomes a double.
-/
namespace PriceBoard

inductive Quantity where
  | whole (value : Int)
  | real (value : Float)

namespace Quantity

def toFloat : Quantity → Float
  | .whole value => Float.ofInt value
  | .real value => value

def combine (onWhole : Int → Int → Int) (onReal : Float → Float → Float) :
    Quantity → Quantity → Quantity
  | .whole left, .whole right => .whole (onWhole left right)
  | left, right => .real (onReal left.toFloat right.toFloat)

def lessThan : Quantity → Quantity → Prop
  | .whole left, .whole right => left < right
  | left, right => left.toFloat < right.toFloat

def atMost : Quantity → Quantity → Prop
  | .whole left, .whole right => left ≤ right
  | left, right => left.toFloat ≤ right.toFloat

instance (left right : Quantity) : Decidable (lessThan left right) := by
  unfold lessThan
  split
  · infer_instance
  · infer_instance

instance (left right : Quantity) : Decidable (atMost left right) := by
  unfold atMost
  split
  · infer_instance
  · infer_instance

def floorQuotient : Quantity → Quantity → Except QuotientError Int
  | .whole value, .whole unit => .ok (value.fdiv unit)
  | value, unit => Timeline.floorQuotient value.toFloat unit.toFloat

def micros : Quantity → Int
  | .whole value => value * 1000000
  | .real value => Timeline.micros value

end Quantity

instance : Timeline Quantity where
  add := Quantity.combine (· + ·) (· + ·)
  sub := Quantity.combine (· - ·) (· - ·)
  mul := Quantity.combine (· * ·) (· * ·)
  zero := .whole 0
  lt := Quantity.lessThan
  le := Quantity.atMost
  decidableLT := fun left right => inferInstanceAs (Decidable (Quantity.lessThan left right))
  decidableLE := fun left right => inferInstanceAs (Decidable (Quantity.atMost left right))
  ofNat := fun value => .whole value
  ofInt := .whole
  floorQuotient := Quantity.floorQuotient
  micros := Quantity.micros

end PriceBoard
