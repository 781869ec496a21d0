import PriceBoard.Decimal.Power

/-!
# The fewest digits that read back

A finite positive double is `mantissa · 2 ^ exponent`. The reals that round to it form an interval
around it, ends included when the mantissa is even. Among the decimals in that interval the ones with
the fewest digits are taken, and among those the nearest to the double, a tie going to the even
digit.
-/
namespace PriceBoard.Decimal

/-- A finite positive double. -/
structure Binary where
  mantissa : Nat
  exponent : Int
  /-- The next double below lies half a step away, as it does below a power of two. -/
  atPower : Bool
  deriving Repr

def isMinus (value : Float) : Bool := value.toBits.toNat / twoTo 63 = 1

/-- A double's bits without the sign. -/
def magnitudeBits (value : Float) : Nat := value.toBits.toNat % twoTo 63

/-- The fields of a finite double's bits, without the sign. -/
def Binary.ofBits (bits : Nat) : Binary :=
  let fraction := bits % twoTo 52
  let biased := bits / twoTo 52 % twoTo 11
  if biased = 0 then ⟨fraction, -1074, false⟩
  else ⟨twoTo 52 + fraction, (biased : Int) - 1075, fraction == 0 && 1 < biased⟩

/-- `digits · 10 ^ exponent`. -/
structure Scientific where
  digits : Nat
  exponent : Int
  deriving DecidableEq, Repr

def decimalLength (value : Nat) : Nat :=
  if value < 10 then 1 else decimalLength (value / 10) + 1

/-- A positive rational. -/
structure Ratio where
  num : Nat
  den : Nat

/-- `value · 10 ^ shift`. -/
def Ratio.shift (value : Ratio) (shift : Int) : Ratio :=
  match shift with
  | .ofNat places => ⟨value.num * tenTo places, value.den⟩
  | .negSucc places => ⟨value.num, value.den * tenTo (places + 1)⟩

def Binary.ratio (value : Binary) : Ratio :=
  match value.exponent with
  | .ofNat places => ⟨value.mantissa * twoTo places, 1⟩
  | .negSucc places => ⟨value.mantissa, twoTo (places + 1)⟩

/-- The power of ten of the leading digit. -/
def Ratio.leadingExponent (value : Ratio) : Int :=
  if value.den ≤ value.num then (decimalLength (value.num / value.den) : Int) - 1
  else -(decimalLength ((value.den - 1) / value.num) : Int)

/-- Whether `digits`, in units of `10 ^ unit`, rounds to the double.

Four times the double's mantissa counts quarter steps, so that both half gaps are whole numbers. -/
def Binary.accepts (value : Binary) (unit : Int) (digits : Nat) : Bool :=
  let step := (Binary.ratio { value with mantissa := 1 }).shift (-unit)
  -- compare digits with mantissa · step, both times four times the denominator
  let candidate := 4 * digits * step.den
  let centre := 4 * value.mantissa * step.num
  let above := 2 * step.num
  let below := if value.atPower then step.num else 2 * step.num
  if value.mantissa % 2 = 0 then centre ≤ candidate + below && candidate ≤ centre + above
  else centre < candidate + below && candidate < centre + above

/-- The multiples of `10 ^ unit` on either side of the double, where they round to it; the nearer one
if both do. -/
def Binary.onGrid? (value : Binary) (unit : Int) : Option Nat :=
  let scaled := value.ratio.shift (-unit)
  let low := scaled.num / scaled.den
  let rest := scaled.num % scaled.den
  let lowFits := value.accepts unit low && low ≠ 0
  if rest = 0 then (if lowFits then some low else none)
  else
    let highFits := value.accepts unit (low + 1)
    match lowFits, highFits with
    | false, false => none
    | true, false => some low
    | false, true => some (low + 1)
    | true, true =>
      if 2 * rest < scaled.den then some low
      else if scaled.den < 2 * rest then some (low + 1)
      else if low % 2 = 0 then some low else some (low + 1)

/-- The first of the grids with `count`, `count + 1`, … digits that has a hit. -/
def Binary.firstHit (value : Binary) (leading : Int) : Nat → Nat → Scientific
  | 0, _ => ⟨0, 0⟩
  | grids + 1, count =>
    let unit := leading - count + 1
    match value.onGrid? unit with
    | some digits => ⟨digits, unit⟩
    | none => value.firstHit leading grids (count + 1)

/-- Seventeen digits are always enough. -/
def Binary.shortest (value : Binary) : Scientific :=
  value.firstHit value.ratio.leadingExponent 18 1

end PriceBoard.Decimal
