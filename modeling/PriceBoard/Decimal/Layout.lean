import PriceBoard.Decimal.Integer
import PriceBoard.Decimal.Shortest

/-!
# The text of a double

The shortest digits that read back, laid out by a style: positional in a band of exponents and in
scientific notation outside it.
-/
namespace PriceBoard.Decimal

structure Style where
  notANumber : String
  infinity : String
  /-- The least decimal exponent written positionally. -/
  lowest : Int
  /-- The least decimal exponent above the positional band. -/
  beyond : Int
  /-- The fewest digits of a written exponent. -/
  exponentWidth : Nat

/-- Stored values and answers. -/
def plainStyle : Style := ⟨"nan", "inf", -4, 16, 2⟩

/-- Published messages. -/
def messageStyle : Style := { plainStyle with notANumber := "NaN", infinity := "Infinity" }

def dropTrailingZeros (value : Scientific) : Nat → Scientific
  | 0 => value
  | steps + 1 =>
    if value.digits ≠ 0 ∧ value.digits % 10 = 0 then
      dropTrailingZeros ⟨value.digits / 10, value.exponent + 1⟩ steps
    else value

def exponentText (width : Nat) (exponent : Int) : List Char :=
  let digits := natDigits exponent.natAbs
  ['e', if exponent < 0 then '-' else '+'] ++ List.replicate (width - digits.length) '0' ++ digits

/-- The text of `0.digits · 10 ^ point` in positional notation, with a fraction of at least one
digit. -/
def positional (digits : List Char) (point : Int) : List Char :=
  if point ≤ 0 then ['0', '.'] ++ List.replicate point.natAbs '0' ++ digits
  else
    let whole := digits.take point.toNat
    let fraction := digits.drop point.toNat
    whole ++ List.replicate (point.toNat - whole.length) '0' ++ ['.'] ++
      (if fraction.isEmpty then ['0'] else fraction)

def scientific (style : Style) (digits : List Char) (exponent : Int) : List Char :=
  match digits with
  | [] => []
  | [leading] => leading :: exponentText style.exponentWidth exponent
  | leading :: rest => leading :: '.' :: rest ++ exponentText style.exponentWidth exponent

def layout (style : Style) (value : Scientific) : List Char :=
  let value := dropTrailingZeros value 20
  let digits := natDigits value.digits
  let leading := value.exponent + digits.length - 1
  if style.lowest ≤ leading ∧ leading < style.beyond then positional digits (leading + 1)
  else scientific style digits leading

def floatDigits (style : Style) (value : Float) : List Char :=
  if value.isNaN then style.notANumber.toList
  else
    let sign := if isMinus value then ['-'] else []
    let magnitude := magnitudeBits value
    if value.isInf then sign ++ style.infinity.toList
    else if magnitude = 0 then sign ++ ['0', '.', '0']
    else sign ++ layout style (Binary.ofBits magnitude).shortest

def floatText (style : Style) (value : Float) : String := String.ofList (floatDigits style value)

end PriceBoard.Decimal
