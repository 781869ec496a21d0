import PriceBoard.Backoff
import PriceBoard.Feed.Trade

/-!
# A feed's stream

A stream follows one feed. It connects, takes the messages as they come, and connects again after a
pause whenever a connection fails or ends. Pauses double until a connection opens. What becomes of
each attempt is given in advance; once nothing more is given, the stream is open and silent.
-/
namespace PriceBoard.Feed

/-- How a connection ends once its messages have come. -/
inductive Ending where
  | closed
  | failed
  | finished
  /-- It stays open. -/
  | silent
  deriving DecidableEq, Repr

structure Delivery (Time : Type) where
  /-- The time since the message before it. -/
  after : Time
  payload : Payload

inductive Attempt (Time : Type) where
  | refused
  | opened (deliveries : List (Delivery Time)) (ending : Ending)

inductive Activity (Time : Type) where
  | connecting
  | connected
  | received (payload : Payload)
  /-- The connection is over. -/
  | disconnected
  | pausing (pause : Time)

namespace Stream

variable {Time : Type} [Timeline Time]

/-- What is received over an open connection, and when it is over. A message that breaks the rules of
trades badly enough to be an error ends the connection. -/
def receive (ending : Ending) (clock : Time) :
    List (Delivery Time) → List (Time × Activity Time) × Option Time
  | [] => ([], if ending = .silent then none else some clock)
  | delivery :: deliveries =>
    let clock := Timeline.wait clock delivery.after
    match readTrade delivery.payload with
    | .error _ => ([(clock, .received delivery.payload)], some clock)
    | .ok _ =>
      let (activities, lost) := receive ending clock deliveries
      ((clock, .received delivery.payload) :: activities, lost)

/-- The activities from an attempt on; `pause` is the pause that follows if it fails. -/
def follow (backoff : Backoff Time) (clock pause : Time) :
    List (Attempt Time) → List (Time × Activity Time)
  | [] => [(clock, .connecting), (clock, .connected)]
  | .refused :: attempts =>
    (clock, .connecting) :: (clock, .pausing pause) ::
      follow backoff (Timeline.wait clock pause) (backoff.next pause) attempts
  | .opened deliveries ending :: attempts =>
    match receive ending clock deliveries with
    | (activities, none) => (clock, .connecting) :: (clock, .connected) :: activities
    | (activities, some lost) =>
      (clock, .connecting) :: (clock, .connected) :: activities ++
        (lost, .disconnected) :: (lost, .pausing backoff.initial) ::
          follow backoff (Timeline.wait lost backoff.initial) (backoff.next backoff.initial) attempts

/-- The activities of a stream that starts at `clock`. -/
def activities (backoff : Backoff Time) (clock : Time) (attempts : List (Attempt Time)) :
    List (Time × Activity Time) :=
  follow backoff clock backoff.initial attempts

/-- Whether the last connection that opened is still open. -/
def isConnected (activities : List (Time × Activity Time)) : Bool :=
  activities.foldl (fun connected activity =>
    match activity.2 with
    | .connected => true
    | .disconnected => false
    | _ => connected) false

end Stream
end PriceBoard.Feed
