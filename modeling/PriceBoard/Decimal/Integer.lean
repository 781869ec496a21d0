import PriceBoard.Text.Blank
import PriceBoard.Text.Digit

/-!
# Integers in decimal

An integer is written with a minus sign and no leading zeros. It is read with digits of any script,
a sign, single underscores between digits, surrounding white space, and at most 4300 digits.
-/
namespace PriceBoard.Decimal

open PriceBoard.Text

def digitChar (value : Nat) : Char := Char.ofNat (0x30 + value)

def natDigits (value : Nat) : List Char :=
  if value < 10 then [digitChar value]
  else natDigits (value / 10) ++ [digitChar (value % 10)]

def intDigits : Int → List Char
  | .ofNat value => natDigits value
  | .negSucc value => '-' :: natDigits (value + 1)

def natText (value : Nat) : String := String.ofList (natDigits value)

def intText (value : Int) : String := String.ofList (intDigits value)

/-- `width` digits, with zeros in front; higher digits are dropped. -/
def paddedDigits : Nat → Nat → List Char
  | 0, _ => []
  | width + 1, value => paddedDigits width (value / 10) ++ [digitChar (value % 10)]

/-- The most digits an integer may be written with, leading zeros included. -/
def digitLimit : Nat := 4300

def ofDigits (values : List Nat) : Nat := values.foldl (fun total value => 10 * total + value) 0

inductive IntegerError where
  | malformed
  | tooManyDigits
  deriving DecidableEq, Repr

/-- The value of a run of digits. -/
def readDigits (text : List Char) : Except IntegerError Nat :=
  match text.mapM digit? with
  | none => .error .malformed
  | some [] => .error .malformed
  | some values =>
    if values.length ≤ digitLimit then .ok (ofDigits values) else .error .tooManyDigits

/-- Takes out the underscores; each must stand between two characters that `isInner` accepts. -/
def dropUnderscores? (isInner : Char → Bool) : List Char → Option (List Char)
  | [] => some []
  | '_' :: _ => none
  | char :: '_' :: next :: rest =>
    if isInner char && isInner next then (dropUnderscores? isInner (next :: rest)).map (char :: ·)
    else none
  | char :: rest => (dropUnderscores? isInner rest).map (char :: ·)

def splitSign : List Char → Bool × List Char
  | '-' :: rest => (true, rest)
  | '+' :: rest => (false, rest)
  | text => (false, text)

def readInteger (text : List Char) : Except IntegerError Int :=
  match splitSign (trimWith isSpace text) with
  | (negative, digits) =>
    match dropUnderscores? isDigit digits with
    | none => .error .malformed
    | some digits => (readDigits digits).map fun value => if negative then -(value : Int) else value

end PriceBoard.Decimal
