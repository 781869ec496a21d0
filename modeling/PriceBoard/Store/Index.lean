/-!
# The index of stored snapshots

A set of members, each with a score, in ascending order of score and then of member. Slices by score
are read from either end.
-/
namespace PriceBoard

structure IndexEntry where
  member : String
  score : Int
  deriving DecidableEq, Repr

def IndexEntry.before (left right : IndexEntry) : Bool :=
  left.score < right.score || (left.score = right.score && left.member < right.member)

abbrev Index := List IndexEntry

namespace Index

def place (entry : IndexEntry) : Index → Index
  | [] => [entry]
  | other :: rest => if entry.before other then entry :: other :: rest else other :: place entry rest

/-- Adds a member, or moves it to its new score. -/
def add (index : Index) (member : String) (score : Int) : Index :=
  place ⟨member, score⟩ (index.filter (·.member ≠ member))

/-- The end of a slice of scores. -/
inductive Limit where
  | unbounded
  | upTo (score : Int)
  | before (score : Int)
  deriving DecidableEq, Repr

def Limit.admits (limit : Limit) (score : Int) : Bool :=
  match limit with
  | .unbounded => true
  | .upTo high => score ≤ high
  | .before high => score < high

def members (index : Index) : List String := index.map (·.member)

/-- The members of a score of at least `low`, in ascending order. -/
def ascendingFrom (index : Index) (low : Int) : List String :=
  members (index.filter (low ≤ ·.score))

/-- At most `count` members between the two ends, in descending order; all of them if `count` is
negative. -/
def descending (index : Index) (high : Limit) (low : Option Int) (count : Int) : List String :=
  let slice := (members (index.filter fun entry =>
    high.admits entry.score && low.all (· ≤ entry.score))).reverse
  if count < 0 then slice else slice.take count.toNat

def dropBelow (index : Index) (low : Int) : Index := index.filter (low ≤ ·.score)

end Index
end PriceBoard
