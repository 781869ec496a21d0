import PriceBoard.Decimal.Exact
import PriceBoard.Decimal.Layout

/-!
# Decimals of a given length

A value that is not negative, with a given number of places after the point, in positional or in
scientific notation. The last place is rounded to nearest, a tie going to the even digit.
-/
namespace PriceBoard.Decimal

/-- How a decimal of a given length is written. -/
inductive Notation where
  | positional
  | scientific
  /-- Scientific for very small and very large values, and without zeros at the end. -/
  | general
  deriving DecidableEq, Repr

def powerOfTen (exponent : Int) : Rat :=
  match exponent with
  | .ofNat places => (tenTo places : Rat)
  | .negSucc places => 1 / (tenTo (places + 1) : Rat)

/-- The exponent of the leading digit of a positive value. -/
def leadingExponent (value : Rat) : Int :=
  let guess : Int := (decimalLength value.num.natAbs : Int) - decimalLength value.den
  if value < powerOfTen guess then guess - 1
  else if powerOfTen (guess + 1) ≤ value then guess + 1
  else guess

/-- Digits with a point before the last `places` of them. `pointed` keeps the point where no digit
follows it. -/
def withPoint (pointed : Bool) (places : Nat) (digits : List Char) : List Char :=
  let digits := List.replicate (places + 1 - digits.length) '0' ++ digits
  let whole := digits.take (digits.length - places)
  let fraction := digits.drop (digits.length - places)
  if fraction.isEmpty && !pointed then whole else whole ++ '.' :: fraction

def positionalText (pointed : Bool) (places : Nat) (value : Rat) : List Char :=
  withPoint pointed places (natDigits (roundHalfEven (value * powerOfTen places)).toNat)

/-- The digits and the exponent of a value, rounded to `places` digits after the leading one. -/
def roundedScientific (places : Nat) (value : Rat) : Nat × Int :=
  if value = 0 then (0, 0)
  else
    let exponent := leadingExponent value
    let digits := (roundHalfEven (value * powerOfTen (places - exponent))).toNat
    if digits = tenTo (places + 1) then (tenTo places, exponent + 1) else (digits, exponent)

def scientificText (pointed : Bool) (places : Nat) (value : Rat) : List Char :=
  let (digits, exponent) := roundedScientific places value
  withPoint pointed places (natDigits digits) ++ exponentText 2 exponent

def dropZeroTail (digits : List Char) : List Char :=
  if digits.contains '.' then
    (digits.reverse.dropWhile (· = '0')).dropWhile (· = '.') |>.reverse
  else digits

/-- At least one significant digit; `pointed` keeps the point and the zeros at the end. -/
def generalText (pointed : Bool) (places : Nat) (value : Rat) : List Char :=
  let significant := max places 1
  let (digits, exponent) := roundedScientific (significant - 1) value
  let drop (text : List Char) := if pointed then text else dropZeroTail text
  if -4 ≤ exponent ∧ exponent < significant then
    drop (positionalText pointed ((significant : Int) - 1 - exponent).toNat value)
  else
    drop (withPoint pointed (significant - 1) (natDigits digits)) ++ exponentText 2 exponent

def lengthText (style : Notation) (pointed : Bool) (places : Nat) (value : Rat) : List Char :=
  match style with
  | .positional => positionalText pointed places value
  | .scientific => scientificText pointed places value
  | .general => generalText pointed places value

end PriceBoard.Decimal
