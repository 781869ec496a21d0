import PriceBoard.Decimal.Integer
import PriceBoard.Decimal.Shortest

/-!
# Reading a double

Two grammars share their values: stored numbers and feed prices allow digits of any script,
underscores and surrounding white space, and the words `inf`, `infinity` and `nan`; settings allow
ASCII digits only.
-/
namespace PriceBoard.Decimal

open PriceBoard.Text

def infinity : Float := 1.0 / 0.0

def notANumber : Float := 0.0 / 0.0

/-- The double nearest to `digits · 10 ^ exponent`. Sizes far outside the doubles are answered
without computing the power. -/
def nearest (digits : Nat) (exponent : Int) : Float :=
  let size := (decimalLength digits : Int) + exponent
  if digits = 0 then 0.0
  else if 400 < size then infinity
  else if size < -400 then 0.0
  else match exponent with
    | .ofNat places => Float.ofScientific (digits * tenTo places) false 0
    | .negSucc places => Float.ofScientific digits true (places + 1)

def signed (negative : Bool) (value : Float) : Float := if negative then -value else value

/-- The nearest double, where the integer does not lie beyond the largest one. -/
def ofInteger? (value : Int) : Option Float :=
  let nearest := nearest value.natAbs 0
  if nearest.isInf then none else some (signed (value < 0) nearest)

def isAsciiDigit (char : Char) : Bool := '0' ≤ char && char ≤ '9'

def asciiValue (char : Char) : Nat := char.toNat - 0x30

/-- An exponent mark with its digits, or nothing. -/
def readExponent? : List Char → Option Int
  | [] => some 0
  | mark :: rest =>
    if mark = 'e' || mark = 'E' then
      match splitSign rest with
      | (negative, digits) =>
        if digits.isEmpty || !digits.all isAsciiDigit then none
        else
          let value : Int := ofDigits (digits.map asciiValue)
          some (if negative then -value else value)
    else none

/-- ASCII digits with an optional point and exponent. -/
def readDecimal? (text : List Char) : Option Float :=
  let whole := text.takeWhile isAsciiDigit
  let rest := text.dropWhile isAsciiDigit
  let fraction := match rest with
    | '.' :: rest => rest.takeWhile isAsciiDigit
    | _ => []
  let rest := match rest with
    | '.' :: rest => rest.dropWhile isAsciiDigit
    | _ => rest
  if whole.isEmpty && fraction.isEmpty then none
  else
    (readExponent? rest).map fun exponent =>
      nearest (ofDigits ((whole ++ fraction).map asciiValue)) (exponent - fraction.length)

def readWord? (text : List Char) : Option Float :=
  let word := String.ofList (text.map Char.toLower)
  if word = "inf" ∨ word = "infinity" then some infinity
  else if word = "nan" then some notANumber
  else none

def readSigned? (text : List Char) : Option Float :=
  match splitSign text with
  | (negative, rest) => ((readWord? rest).or (readDecimal? rest)).map (signed negative)

/-- Every decimal digit becomes its ASCII form. -/
def asciiDigits (text : List Char) : List Char :=
  text.map fun char => ((digit? char).map digitChar).getD char

/-- The double a stored number or a price stands for. -/
def readFloat? (text : List Char) : Option Float :=
  (dropUnderscores? isAsciiDigit (asciiDigits (trimWith isSpace text))).bind readSigned?

end PriceBoard.Decimal
