import PriceBoard.Predicate.Basic
import PriceBoard.Text.Scan

/-!
# Phrases of a clause

A clause is recognised by the first rule that finds its phrase in it. Most rules look anywhere in
the clause; the rules for dates and for comparison signs take the whole of it. What a phrase names is
kept as text.
-/
namespace PriceBoard.Query

open PriceBoard.Text

inductive SpanUnit where
  | minute
  | hour
  | day
  deriving DecidableEq, Repr

namespace SpanUnit

def ms : SpanUnit → Nat
  | .minute => 60000
  | .hour => 3600000
  | .day => 86400000

/-- The words for the units, in the order in which they are tried. -/
def words : List (List Char × SpanUnit) := [
  ("mins".toList, .minute), ("min".toList, .minute), ("minutes".toList, .minute),
  ("minute".toList, .minute), ("hours".toList, .hour), ("hour".toList, .hour),
  ("days".toList, .day), ("day".toList, .day)]

end SpanUnit

inductive Side where
  | above
  | below
  deriving DecidableEq, Repr

inductive Edge where
  | after
  | before
  deriving DecidableEq, Repr

inductive Phrase where
  | dropped (value : List Char) (ago : Option (List Char × SpanUnit))
  | rose (value : List Char)
  | fell (value : List Char)
  | sided (field : List Char) (side : Side) (value : List Char)
  | between (field low high : List Char)
  | withinLast (amount : List Char) (unit : SpanUnit)
  | dated (edge : Edge) (date : List Char)
  | compared (field : List Char) (comparator : Comparator) (value : List Char)
  deriving DecidableEq, Repr

namespace Phrase

/-- The first alternative that the text starts with. -/
def oneOf? {Meaning : Type} (alternatives : List (List Char × Meaning)) (text : List Char) :
    Option (Meaning × List Char) :=
  alternatives.findSome? fun (word, meaning) => (after? word text).map fun rest => (meaning, rest)

/-- An amount and its unit, where `accept` allows what follows the unit. -/
def amount? (accept : List Char → Bool) (text : List Char) : Option (List Char × SpanUnit) := do
  let (amount, rest) ← digits? text
  let unit ← SpanUnit.words.findSome? fun (word, unit) =>
    match after? word (skipBlanks rest) with
    | some rest => if accept rest then some unit else none
    | none => none
  some (amount, unit)

def endsAgo (text : List Char) : Bool := (after? "ago".toList (skipBlanks text)).isSome

/-- A numeral after at least one blank. -/
def value? (text : List Char) : Option (List Char × List Char) := (blanks? text).bind numeral?

def dropped? (text : List Char) : Option Phrase := do
  let rest ← after? "dropped below".toList text
  let (value, rest) ← value? rest
  some (.dropped value ((blanks? rest).bind (amount? endsAgo)))

def rose? (text : List Char) : Option Phrase := do
  let (_, rest) ← oneOf? [("rose above".toList, ()), ("increased above".toList, ())] text
  let (value, _) ← value? rest
  some (.rose value)

def fell? (text : List Char) : Option Phrase := do
  let (_, rest) ← oneOf? [("fell under".toList, ()), ("went below".toList, ())] text
  let (value, _) ← value? rest
  some (.fell value)

def sided? (text : List Char) : Option Phrase := do
  let (field, rest) ← word? text
  let rest ← blanks? rest
  let (side, rest) ← oneOf? [("above".toList, Side.above), ("below".toList, Side.below)] rest
  let (value, _) ← value? rest
  some (.sided field side value)

def between? (text : List Char) : Option Phrase := do
  let (field, rest) ← word? text
  let rest ← blanks? rest
  let rest ← after? "between".toList rest
  let (low, rest) ← value? rest
  let rest ← blanks? rest
  let rest ← after? "and".toList rest
  let (high, _) ← value? rest
  some (.between field low high)

def withinLast? (text : List Char) : Option Phrase := do
  let rest ← after? "timestamp within last".toList text
  let rest ← blanks? rest
  let (amount, unit) ← amount? (fun _ => true) rest
  some (.withinLast amount unit)

def dated? (text : List Char) : Option Phrase := do
  let rest ← after? "timestamp".toList text
  let rest ← blanks? rest
  let (edge, rest) ← oneOf? [("after".toList, Edge.after), ("before".toList, Edge.before)] rest
  let date ← blanks? rest
  if date.isEmpty || date.contains '\n' then none else some (.dated edge date)

def comparators : List (List Char × Comparator) := [
  (">=".toList, .greaterEqual), ("<=".toList, .lessEqual), (">".toList, .greater),
  ("<".toList, .less)]

def compared? (text : List Char) : Option Phrase := do
  let (field, rest) ← word? text
  let (comparator, rest) ← oneOf? comparators (skipBlanks rest)
  let (value, rest) ← numeral? (skipBlanks rest)
  if rest.isEmpty then some (.compared field comparator value) else none

end Phrase

/-- The kinds of phrase, in the order in which they are tried. -/
inductive Rule where
  | drop
  | rise
  | fall
  | aboveBelow
  | between
  | withinLast
  | afterBefore
  | symbolic
  deriving DecidableEq, Repr

namespace Rule

def all : List Rule :=
  [.drop, .rise, .fall, .aboveBelow, .between, .withinLast, .afterBefore, .symbolic]

def name : Rule → String
  | .drop => "drop"
  | .rise => "rise"
  | .fall => "fall"
  | .aboveBelow => "above_below"
  | .between => "between"
  | .withinLast => "within_last"
  | .afterBefore => "after_before"
  | .symbolic => "symbolic"

def ofName? (name : String) : Option Rule := all.find? (·.name = name)

def recognise? (clause : List Char) : Rule → Option Phrase
  | .drop => search? Phrase.dropped? clause
  | .rise => search? Phrase.rose? clause
  | .fall => search? Phrase.fell? clause
  | .aboveBelow => search? Phrase.sided? clause
  | .between => search? Phrase.between? clause
  | .withinLast => search? Phrase.withinLast? clause
  | .afterBefore => Phrase.dated? clause
  | .symbolic => Phrase.compared? clause

end Rule

def recognise? (rules : List Rule) (clause : List Char) : Option Phrase :=
  rules.findSome? (·.recognise? clause)

end PriceBoard.Query
