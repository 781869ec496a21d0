import PriceBoard.Calendar.IsoReader
import PriceBoard.Predicate.Basic

/-!
# Written predicates

A predicate is written as nested objects, one for each node, named for what the node tests.
-/
namespace PriceBoard

/-- A number, or a numeral in a string. -/
def Json.float? : Json → Option Float
  | .number value => some value
  | .integer value => Decimal.ofInteger? value
  | .string text => Decimal.readFloat? text.toList
  | _ => none

def Json.string? : Json → Option String
  | .string text => some text
  | _ => none

def Json.dateTime? : Json → Option DateTime
  | .string text => Iso.readDateTime? text.toList
  | _ => none

inductive TreeError where
  /-- An operator that no comparison has. -/
  | unknownOperator (symbol : String)
  | malformed

def TreeError.message : TreeError → String
  | .unknownOperator symbol => "Unsupported operator '" ++ symbol ++ "'"
  | .malformed => "Malformed tree"

namespace Predicate

mutual

def toJson : Predicate → Json
  | .comparison field comparator value =>
    .object [("comparison", .array [.string field, .string comparator.symbol, .number value])]
  | .range field low high =>
    .object [("range", .array [.string field, .number low, .number high])]
  | .timeAfter cutoff => .object [("time_after", .string cutoff.isoText)]
  | .timeWithinLast cutoff => .object [("time_within_last", .string cutoff.isoText)]
  | .timeBefore cutoff => .object [("time_before", .string cutoff.isoText)]
  | .anyFieldBelow value fields =>
    .object [("any_field_below", .number value), ("fields", .array (fields.map .string))]
  | .anyFieldAbove value fields =>
    .object [("any_field_above", .number value), ("fields", .array (fields.map .string))]
  | .all children => .object [("and", .array (listToJson children))]
  | .any children => .object [("or", .array (listToJson children))]

def listToJson : List Predicate → List Json
  | [] => []
  | child :: children => toJson child :: listToJson children

end


def timeNode (make : DateTime → Predicate) (cutoff : Json) : Except TreeError Predicate :=
  match cutoff.dateTime? with
  | some cutoff => .ok (make cutoff)
  | none => .error .malformed

def fieldsNode (make : Float → List String → Predicate) (value fields : Json) :
    Except TreeError Predicate :=
  match value.float?, fields with
  | some value, .array fields => .ok (make value (fields.filterMap (·.string?)))
  | _, _ => .error .malformed

def comparisonNode (field symbol : String) (value : Json) : Except TreeError Predicate :=
  match value.float?, Comparator.ofSymbol? symbol with
  | none, _ => .error .malformed
  | some _, none => .error (.unknownOperator symbol)
  | some value, some comparator => .ok (.comparison field comparator value)

def rangeNode (field : String) (low high : Json) : Except TreeError Predicate :=
  match low.float?, high.float? with
  | some low, some high => .ok (.range field low high)
  | _, _ => .error .malformed

mutual

/-- Children are read first, from left to right. -/
def ofJson : Json → Except TreeError Predicate
  | .object [("comparison", .array [.string field, .string symbol, value])] =>
    comparisonNode field symbol value
  | .object [("range", .array [.string field, low, high])] => rangeNode field low high
  | .object [("time_after", cutoff)] => timeNode .timeAfter cutoff
  | .object [("time_within_last", cutoff)] => timeNode .timeWithinLast cutoff
  | .object [("time_before", cutoff)] => timeNode .timeBefore cutoff
  | .object [("any_field_below", value), ("fields", fields)] =>
    fieldsNode .anyFieldBelow value fields
  | .object [("fields", fields), ("any_field_below", value)] =>
    fieldsNode .anyFieldBelow value fields
  | .object [("any_field_above", value), ("fields", fields)] =>
    fieldsNode .anyFieldAbove value fields
  | .object [("fields", fields), ("any_field_above", value)] =>
    fieldsNode .anyFieldAbove value fields
  | .object [("and", .array children)] => (listOfJson children).map .all
  | .object [("or", .array children)] => (listOfJson children).map .any
  | _ => .error .malformed

def listOfJson : List Json → Except TreeError (List Predicate)
  | [] => .ok []
  | child :: children =>
    match ofJson child with
    | .error error => .error error
    | .ok child => (listOfJson children).map (child :: ·)

end

end Predicate
end PriceBoard
