import PriceBoard.Decimal.Numeral
import PriceBoard.Snapshot.Basic

/-!
# Snapshots from loose values

Values of any JSON type are accepted where they stand for a double: numbers, truth values as one and
zero, and numerals. Every value that does not is reported, with its place and what is wrong with it.
-/
namespace PriceBoard

open PriceBoard.Decimal PriceBoard.Text

/-- What is wrong with one value of a checked structure. -/
structure Fault where
  place : List String
  kind : String
  deriving DecidableEq, Repr

/-- Underscores may stand inside the text, one at a time. -/
def dropInnerUnderscores? (text : List Char) : Option (List Char) :=
  dropUnderscores? (fun char => char != '_') text

/-- ASCII numerals and the words for infinity and not-a-number, with white space around them. -/
def readLooseFloat? (text : List Char) : Option Float :=
  let text := trimWith isSpace text
  (readSigned? text).or ((dropInnerUnderscores? text).bind readSigned?)

def looseFloat : Json → Except String Float
  | .number value => .ok value
  | .integer value =>
    match ofInteger? value with
    | some value => .ok value
    | none => .error "float_type"
  | .bool value => .ok (if value then 1.0 else 0.0)
  | .string text =>
    match readLooseFloat? text.toList with
    | some value => .ok value
    | none => .error "float_parsing"
  | _ => .error "float_type"

def looseValues : List (String × Json) → List (String × Float) × List Fault
  | [] => ([], [])
  | (feed, value) :: rest =>
    match looseValues rest, looseFloat value with
    | (values, faults), .ok value => ((feed, value) :: values, faults)
    | (values, faults), .error kind => (values, ⟨["values", feed], kind⟩ :: faults)

inductive InputError where
  | faults (faults : List Fault)
  | time (error : TimeError)

def Snapshot.ofInput (timestamp : DateTime) (values : Json) : Except InputError Snapshot :=
  -- the time is moved to UTC before the values are looked at
  match Snapshot.make timestamp [], values with
  | .error error, _ => .error (.time error)
  | .ok moved, .object members =>
    match looseValues members with
    | (values, []) => .ok { moved with values }
    | (_, faults) => .error (.faults faults)
  | .ok _, _ => .error (.faults [⟨["values"], "dict_type"⟩])

end PriceBoard
