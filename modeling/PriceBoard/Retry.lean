import PriceBoard.Backoff

/-!
# Trying again

A call is tried until it succeeds, fails in a way that is not worth another try, or has been tried
often enough. Between two tries there is a pause, drawn from a range that doubles up to a cap, and
before the pause the retry may be announced.
-/
namespace PriceBoard

/-- Kinds of failure, from the broadest to the most special. -/
inductive FailureKind where
  | any
  | system
  | connection
  | timeout
  | lookup
  | missingKey
  /-- Of no kind but `any`. -/
  | other (name : String)
  deriving DecidableEq, Repr

namespace FailureKind

/-- The kinds that a failure of this kind is of, this one first. -/
def lineage : FailureKind → List FailureKind
  | .any => [.any]
  | .system => [.system, .any]
  | .connection => [.connection, .system, .any]
  | .timeout => [.timeout, .system, .any]
  | .lookup => [.lookup, .any]
  | .missingKey => [.missingKey, .lookup, .any]
  | .other name => [.other name, .any]

def isA (kind other : FailureKind) : Bool := kind.lineage.contains other

end FailureKind

namespace Retry

inductive Outcome (Value Failure : Type) where
  | success (value : Value)
  | failure (failure : Failure)

structure Policy (Time : Type) where
  /-- How many tries there are; none if not positive. -/
  tries : Int
  backoff : Backoff Time
  /-- The width of the range of a pause, as a share of the pause's size. -/
  jitter : Time
  /-- How long an announcement takes, if there are any. -/
  announcement : Option Time

inductive Event (Time Failure : Type) where
  | call
  /-- Announces the pause after a failed try; tries are counted from one. -/
  | retry (attempt : Nat) (failure : Failure) (pause : Time)

inductive Ending (Value Failure : Type) where
  | success (value : Value)
  | failure (failure : Failure)
  /-- No try was allowed. -/
  | exhausted

structure Run (Time Value Failure : Type) where
  events : List (Time × Event Time Failure)
  clock : Time
  ending : Ending Value Failure

def exhaustedMessage : String := "async retry exhausted"

variable {Time Value Failure : Type} [Timeline Time]

/-- A draw from a range; an empty range has nothing to draw from. -/
def draw (width share : Time) : Time := if 0 < width ∨ width < 0 then width * share else width

/-- The pause whose uncapped size is `delay`. -/
def Policy.pause (policy : Policy Time) (delay share : Time) : Time :=
  Timeline.earlier delay policy.backoff.cap + draw (delay * policy.jitter) share

def announced (policy : Policy Time) (clock : Time) (attempt : Nat) (failure : Failure)
    (pause : Time) : Time × List (Time × Event Time Failure) :=
  match policy.announcement with
  | none => (clock, [])
  | some duration =>
    let clock := Timeline.wait clock duration
    (clock, [(clock, .retry attempt failure pause)])

/-- The tries from number `attempt` on, counted from zero, of which `remaining` are left. The share of
its range that each pause takes is given in advance. -/
def runFrom (policy : Policy Time) (retryable : Failure → Bool) (shares : Nat → Time)
    (outcomes : Nat → Outcome Value Failure) :
    Nat → Nat → Time → Time → Run Time Value Failure
  | 0, _, clock, _ => ⟨[], clock, .exhausted⟩
  | remaining + 1, attempt, clock, delay =>
    match outcomes attempt with
    | .success value => ⟨[(clock, .call)], clock, .success value⟩
    | .failure failure =>
      if retryable failure = false ∨ remaining = 0 then ⟨[(clock, .call)], clock, .failure failure⟩
      else
        let pause := policy.pause delay (shares attempt)
        let (later, announcement) := announced policy clock (attempt + 1) failure pause
        let rest := runFrom policy retryable shares outcomes remaining (attempt + 1)
          (Timeline.wait later pause) (policy.backoff.next delay)
        { rest with events := (clock, .call) :: announcement ++ rest.events }

def run (policy : Policy Time) (retryable : Failure → Bool) (shares : Nat → Time)
    (outcomes : Nat → Outcome Value Failure) (clock : Time) : Run Time Value Failure :=
  runFrom policy retryable shares outcomes policy.tries.toNat 0 clock policy.backoff.initial

end Retry
end PriceBoard
