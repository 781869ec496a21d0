import PriceBoard.Snapshot.Basic

/-!
# Predicates on snapshots

A tree of tests. Times in it are cutoffs: nothing is relative to the present any more. A test on a
time fails where the cutoff and the snapshot's time cannot be ordered.
-/
namespace PriceBoard

inductive Comparator where
  | greater
  | less
  | greaterEqual
  | lessEqual
  deriving DecidableEq, Repr

namespace Comparator

def symbol : Comparator → String
  | .greater => ">"
  | .less => "<"
  | .greaterEqual => ">="
  | .lessEqual => "<="

def ofSymbol? : String → Option Comparator
  | ">" => some .greater
  | "<" => some .less
  | ">=" => some .greaterEqual
  | "<=" => some .lessEqual
  | _ => none

def holds (comparator : Comparator) (left right : Float) : Bool :=
  match comparator with
  | .greater => right < left
  | .less => left < right
  | .greaterEqual => right ≤ left
  | .lessEqual => left ≤ right

end Comparator

inductive Predicate where
  | comparison (field : String) (comparator : Comparator) (value : Float)
  | range (field : String) (low high : Float)
  | timeAfter (cutoff : DateTime)
  /-- Tests what `timeAfter` tests; the tree says what was asked for. -/
  | timeWithinLast (cutoff : DateTime)
  | timeBefore (cutoff : DateTime)
  | anyFieldBelow (value : Float) (fields : List String)
  | anyFieldAbove (value : Float) (fields : List String)
  | all (children : List Predicate)
  | any (children : List Predicate)

namespace Predicate

mutual

/-- Children are tried in order, and no further than needed. -/
def holds (snapshot : Snapshot) : Predicate → Except TimeError Bool
  | .comparison field comparator value =>
    match snapshot.value? field with
    | none => .ok false
    | some current => .ok (comparator.holds current value)
  | .range field low high =>
    match snapshot.value? field with
    | none => .ok false
    | some current => .ok (low ≤ current && current ≤ high)
  | .timeAfter cutoff => (snapshot.timestamp.compare cutoff).map (· != .lt)
  | .timeWithinLast cutoff => (snapshot.timestamp.compare cutoff).map (· != .lt)
  | .timeBefore cutoff => (snapshot.timestamp.compare cutoff).map (· != .gt)
  | .anyFieldBelow value fields =>
    .ok (fields.any fun field => (snapshot.value? field).any (· < value))
  | .anyFieldAbove value fields =>
    .ok (fields.any fun field => (snapshot.value? field).any (value < ·))
  | .all children => everyHolds snapshot children
  | .any children => someHolds snapshot children

def everyHolds (snapshot : Snapshot) : List Predicate → Except TimeError Bool
  | [] => .ok true
  | child :: children =>
    match holds snapshot child with
    | .error error => .error error
    | .ok false => .ok false
    | .ok true => everyHolds snapshot children

def someHolds (snapshot : Snapshot) : List Predicate → Except TimeError Bool
  | [] => .ok false
  | child :: children =>
    match holds snapshot child with
    | .error error => .error error
    | .ok true => .ok true
    | .ok false => someHolds snapshot children

end

end Predicate
end PriceBoard
