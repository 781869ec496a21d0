import PriceBoard.Query.Compile
import PriceBoard.Proofs.Query.Split

/-!
# The grammar of queries

A query is a list of groups of wordings, joined by `OR` between groups and by `AND` inside a group. Each
wording stands for one predicate.
-/
namespace PriceBoard.Query

open PriceBoard.Decimal PriceBoard.Text

/-! ### Numbers and names -/

structure Digits where
  chars : List Char
  nonempty : chars ≠ []
  ascii : ∀ char ∈ chars, isAsciiDigit char = true

def Digits.value (digits : Digits) : Nat := ofDigits (digits.chars.map asciiValue)

structure Numeral where
  whole : Digits
  fraction : Option Digits

namespace Numeral

def text (numeral : Numeral) : List Char :=
  match numeral.fraction with
  | none => numeral.whole.chars
  | some fraction => numeral.whole.chars ++ '.' :: fraction.chars

def value (numeral : Numeral) : Float :=
  match numeral.fraction with
  | none => nearest numeral.whole.value 0
  | some fraction =>
    nearest (ofDigits ((numeral.whole.chars ++ fraction.chars).map asciiValue))
      (-(fraction.chars.length : Int))

end Numeral

/-- Digits and points, whether they make a number or not. -/
structure Figure where
  chars : List Char
  nonempty : chars ≠ []
  plain : ∀ char ∈ chars, isAsciiDigit char = true ∨ char = '.'

structure Name where
  chars : List Char
  nonempty : chars ≠ []
  word : ∀ char ∈ chars, isWord char = true

def isNameChar (char : Char) : Bool := char.isLower || isAsciiDigit char || char = '_'

structure FieldName where
  chars : List Char
  nonempty : chars ≠ []
  plain : ∀ char ∈ chars, isNameChar char = true

inductive UnitWord where
  | min
  | mins
  | minute
  | minutes
  | hour
  | hours
  | day
  | days
  deriving DecidableEq, Repr

namespace UnitWord

def text : UnitWord → List Char
  | .min => "min".toList
  | .mins => "mins".toList
  | .minute => "minute".toList
  | .minutes => "minutes".toList
  | .hour => "hour".toList
  | .hours => "hours".toList
  | .day => "day".toList
  | .days => "days".toList

def unit : UnitWord → SpanUnit
  | .min | .mins | .minute | .minutes => .minute
  | .hour | .hours => .hour
  | .day | .days => .day

end UnitWord

structure SpanText where
  amount : Digits
  short : amount.chars.length ≤ digitLimit
  unit : UnitWord

def SpanText.micros (span : SpanText) : Nat := span.amount.value * span.unit.unit.ms * 1000

/-! ### Wordings -/

inductive Rise where
  | rose
  | increased
  deriving DecidableEq, Repr

def Rise.verb : Rise → List Char
  | .rose => "rose".toList
  | .increased => "increased".toList

inductive Fall where
  | fellUnder
  | wentBelow
  deriving DecidableEq, Repr

def Fall.words : Fall → List (List Char)
  | .fellUnder => ["fell".toList, "under".toList]
  | .wentBelow => ["went".toList, "below".toList]

def Side.word : Side → List Char
  | .above => "above".toList
  | .below => "below".toList

/-- The verbs that give the word of a side another meaning. -/
def Side.verbs : Side → List (List Char)
  | .above => ["rose".toList, "increased".toList]
  | .below => ["dropped".toList, "went".toList]

/-- A phrase that a rule finds anywhere in a clause, whatever rule that is. -/
inductive Saying where
  | sided (field : FieldName) (side : Side) (value : Figure)
  | between (field : FieldName) (low high : Figure)
  | rose (rise : Rise) (value : Figure)
  | fell (fall : Fall) (value : Figure)
  | dropped (value : Figure)
  | droppedAgo (value : Figure) (amount : Digits) (unit : UnitWord)
  | withinLast (amount : Digits) (unit : UnitWord)

def Saying.words : Saying → List (List Char)
  | .sided field side value => [field.chars, side.word, value.chars]
  | .between field low high =>
    [field.chars, "between".toList, low.chars, "and".toList, high.chars]
  | .rose rise value => [rise.verb, "above".toList, value.chars]
  | .fell fall value => fall.words ++ [value.chars]
  | .dropped value => ["dropped".toList, "below".toList, value.chars]
  | .droppedAgo value amount unit =>
    ["dropped".toList, "below".toList, value.chars, amount.chars, unit.text, "ago".toList]
  | .withinLast amount unit =>
    ["timestamp".toList, "within".toList, "last".toList, amount.chars, unit.text]

/-- A phrase whose meaning is the one it is written for. -/
inductive Wording where
  | sided (field : FieldName) (side : Side) (value : Numeral)
      (free : ∀ verb ∈ side.verbs, ¬verb <:+ field.chars)
  | between (field : FieldName) (low high : Numeral)
  | compared (field : FieldName) (comparator : Comparator) (value : Numeral)
  | rose (rise : Rise) (value : Numeral)
  | fell (fall : Fall) (value : Numeral)
  | dropped (value : Numeral)
  | droppedAgo (value : Numeral) (ago : SpanText)
  | withinLast (span : SpanText)

namespace Wording

def words : Wording → List (List Char)
  | .sided field side value _ => [field.chars, side.word, value.text]
  | .between field low high =>
    [field.chars, "between".toList, low.text, "and".toList, high.text]
  | .compared field comparator value => [field.chars, comparator.symbol.toList, value.text]
  | .rose rise value => [rise.verb, "above".toList, value.text]
  | .fell fall value => fall.words ++ [value.text]
  | .dropped value => ["dropped".toList, "below".toList, value.text]
  | .droppedAgo value ago =>
    ["dropped".toList, "below".toList, value.text, ago.amount.chars, ago.unit.text, "ago".toList]
  | .withinLast span =>
    ["timestamp".toList, "within".toList, "last".toList, span.amount.chars, span.unit.text]

def text (wording : Wording) : List Char := spaced wording.words

def window : Wording → Nat
  | .dropped _ => 3600000000
  | .droppedAgo _ ago => ago.micros
  | .withinLast span => span.micros
  | _ => 0

end Wording

/-- The time so many microseconds ago, where the calendar reaches back that far. -/
def ago (now : DateTime) (micros : Nat) : DateTime :=
  { now with wall :=
      ⟨now.wall.micros - micros, Nat.lt_of_le_of_lt (Nat.sub_le _ _) now.wall.bounded⟩ }

namespace Wording

def predicate (context : Context) (wording : Wording) : Predicate :=
  match wording with
  | .sided field .above value _ => .comparison (String.ofList field.chars) .greater value.value
  | .sided field .below value _ => .comparison (String.ofList field.chars) .less value.value
  | .between field low high => .range (String.ofList field.chars) low.value high.value
  | .compared field comparator value =>
    .comparison (String.ofList field.chars) comparator value.value
  | .rose _ value => .anyFieldAbove value.value context.fields
  | .fell _ value => .anyFieldBelow value.value context.fields
  | .dropped value | .droppedAgo value _ =>
    .all [.timeWithinLast (ago context.now wording.window),
      .anyFieldBelow value.value context.fields]
  | .withinLast _ => .timeWithinLast (ago context.now wording.window)

end Wording

/-! ### Queries -/

def IsQuiet (char : Char) : Prop :=
  0x20 < char.toNat ∧ char.toNat < 0x80 ∧ (char.toNat < 0x41 ∨ 0x5a < char.toNat)

instance (char : Char) : Decidable (IsQuiet char) :=
  inferInstanceAs (Decidable (_ ∧ _ ∧ (_ ∨ _)))

def IsQuietWord (word : List Char) : Prop := word ≠ [] ∧ ∀ char ∈ word, IsQuiet char

instance (word : List Char) : Decidable (IsQuietWord word) :=
  @instDecidableAnd _ _ _ (List.decidableBAll IsQuiet word)

end PriceBoard.Query
