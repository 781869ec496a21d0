import PriceBoard.Decimal.Shortest

/-!
# Exact values

A finite double is a rational number. Rationals are rounded to whole numbers with ties to the even
one.
-/
namespace PriceBoard.Decimal

def roundHalfEven (value : Rat) : Int :=
  let low := value.floor
  let rest := value - low
  if rest < 1 / 2 then low
  else if 1 / 2 < rest then low + 1
  else if low % 2 = 0 then low else low + 1

/-- The exact value of a finite double. -/
def exact (value : Float) : Rat :=
  let ratio := (Binary.ofBits (magnitudeBits value)).ratio
  let size : Rat := (ratio.num : Rat) / (ratio.den : Rat)
  if isMinus value then -size else size

end PriceBoard.Decimal
