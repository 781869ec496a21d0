import PriceBoard.Predicate.Basic

/-!
# Time bounds of a predicate

The bounds are a first and a last time, either of which may be open. A snapshot outside them never
matches. A predicate is seen to be always false when a branch it needs is, or when its bounds cross;
such branches do not widen the bounds of a disjunction.
-/
namespace PriceBoard

/-- An open end is `none`. -/
structure Bounds where
  low : Option DateTime
  high : Option DateTime
  deriving DecidableEq

namespace Bounds

def unbounded : Bounds := ⟨none, none⟩

end Bounds

namespace DateTime

/-- The later of two times; the first if they name one instant. -/
def later (first second : DateTime) : Except TimeError DateTime :=
  (second.compare first).map fun order => if order = .gt then second else first

def earlier (first second : DateTime) : Except TimeError DateTime :=
  (second.compare first).map fun order => if order = .lt then second else first

def latestFrom (best : DateTime) : List DateTime → Except TimeError DateTime
  | [] => .ok best
  | next :: rest =>
    match later best next with
    | .error error => .error error
    | .ok best => latestFrom best rest

def earliestFrom (best : DateTime) : List DateTime → Except TimeError DateTime
  | [] => .ok best
  | next :: rest =>
    match earlier best next with
    | .error error => .error error
    | .ok best => earliestFrom best rest

def latest? : List DateTime → Except TimeError (Option DateTime)
  | [] => .ok none
  | first :: rest => (latestFrom first rest).map some

def earliest? : List DateTime → Except TimeError (Option DateTime)
  | [] => .ok none
  | first :: rest => (earliestFrom first rest).map some

end DateTime

namespace Bounds

/-- The times inside all of the bounds. -/
def meet (bounds : List Bounds) : Except TimeError Bounds :=
  match DateTime.latest? (bounds.filterMap (·.low)), DateTime.earliest? (bounds.filterMap (·.high)) with
  | .ok low, .ok high => .ok ⟨low, high⟩
  | .error error, _ => .error error
  | _, .error error => .error error

/-- The least bounds around all of the bounds; one open end leaves the end open. -/
def join (bounds : List Bounds) : Except TimeError Bounds :=
  let low :=
    if bounds.all (·.low.isSome) then DateTime.earliest? (bounds.filterMap (·.low)) else .ok none
  let high :=
    if bounds.all (·.high.isSome) then DateTime.latest? (bounds.filterMap (·.high)) else .ok none
  match low, high with
  | .ok low, .ok high => .ok ⟨low, high⟩
  | .error error, _ => .error error
  | _, .error error => .error error

def crossed (bounds : Bounds) : Except TimeError Bool :=
  match bounds.low, bounds.high with
  | some low, some high => (low.compare high).map (· == .gt)
  | _, _ => .ok false

end Bounds

namespace Predicate

mutual

def contradictory : Predicate → Except TimeError Bool
  | .all children =>
    match someContradictory children with
    | .error error => .error error
    | .ok true => .ok true
    | .ok false => ((childBounds children).bind Bounds.meet).bind Bounds.crossed
  | .any children => everyContradictory children
  | _ => .ok false

def bounds : Predicate → Except TimeError Bounds
  | .timeAfter cutoff => .ok ⟨some cutoff, none⟩
  | .timeWithinLast cutoff => .ok ⟨some cutoff, none⟩
  | .timeBefore cutoff => .ok ⟨none, some cutoff⟩
  | .all children => (childBounds children).bind Bounds.meet
  | .any children => (liveBounds children).bind Bounds.join
  | _ => .ok Bounds.unbounded

def someContradictory : List Predicate → Except TimeError Bool
  | [] => .ok false
  | child :: children =>
    match contradictory child with
    | .error error => .error error
    | .ok true => .ok true
    | .ok false => someContradictory children

def everyContradictory : List Predicate → Except TimeError Bool
  | [] => .ok true
  | child :: children =>
    match contradictory child with
    | .error error => .error error
    | .ok false => .ok false
    | .ok true => everyContradictory children

def childBounds : List Predicate → Except TimeError (List Bounds)
  | [] => .ok []
  | child :: children =>
    match bounds child with
    | .error error => .error error
    | .ok bounds => (childBounds children).map (bounds :: ·)

/-- The bounds of the children that are not always false. -/
def liveBounds : List Predicate → Except TimeError (List Bounds)
  | [] => .ok []
  | child :: children =>
    match contradictory child with
    | .error error => .error error
    | .ok true => liveBounds children
    | .ok false =>
      match bounds child with
      | .error error => .error error
      | .ok bounds => (liveBounds children).map (bounds :: ·)

end

end Predicate
end PriceBoard
