import PriceBoard.Snapshot.Message
import PriceBoard.Ticker.Basic

/-!
# Rehearsals of the ticker

A ticker runs over a store that follows a plan: how long each insert takes, whether it fails, and how
long the publishing after it takes and whether that fails. Time passes only by jumping to what is due
next.
-/
namespace PriceBoard

open Feed (Quotes TakeError)

structure InsertPlan (Time : Type) where
  takes : Time
  fails : Bool
  publishFails : Bool

/-- What can be seen of a rehearsal. -/
inductive Note where
  | insert (snapshot : Snapshot)
  | insertCancelled
  | insertFailed
  | publish (event : String)
  | emit (timestamp : DateTime)
  | tickReturned (found : Bool)
  | tickRaised (error : TickError)
  | stopped (cancelled : Bool)
  | stopFailed (error : TickError)

/-- What is done to the ticker and the quotes from outside. -/
inductive Action where
  | update (feed : String) (value : Float)
  | start
  | stop
  | tick

structure Rehearsal (Time : Type) where
  plans : Nat → InsertPlan Time
  /-- How long the publishing after an insert takes. -/
  publishing : Nat → Time
  /-- Whether written snapshots are handed on to anyone. -/
  handsOn : Bool
  /-- What a wall clock shows at time zero. -/
  opening : DateTime
  ticker : Ticker Time
  quotes : Quotes
  clock : Time
  /-- How many inserts have begun. -/
  inserts : Nat
  /-- What the store owes the ticker, and when. -/
  owed : Option (Time × Ticker.Event)
  notes : List (Time × Note)
  metrics : List Metric

namespace Rehearsal

variable {Time : Type} [Timeline Time]

/-- A rehearsal whose publishings take no time. -/
def start (plans : Nat → InsertPlan Time) (handsOn : Bool) (opening : DateTime)
    (ticker : Ticker Time) (feeds : List String) : Rehearsal Time :=
  ⟨plans, fun _ => 0, handsOn, opening, ticker, Quotes.empty feeds, 0, 0, none, [], []⟩

def wallClock (rehearsal : Rehearsal Time) : Except TimeError DateTime :=
  rehearsal.opening.plusMicros (Timeline.micros rehearsal.clock)

def note (rehearsal : Rehearsal Time) (note : Note) : Rehearsal Time :=
  { rehearsal with notes := rehearsal.notes ++ [(rehearsal.clock, note)] }

def count (rehearsal : Rehearsal Time) (metric : Metric) : Rehearsal Time :=
  { rehearsal with metrics := rehearsal.metrics ++ [metric] }

/-- The plan of the insert that began last. -/
def plan (rehearsal : Rehearsal Time) : InsertPlan Time := rehearsal.plans (rehearsal.inserts - 1)

def perform (rehearsal : Rehearsal Time) : Ticker.Effect → Rehearsal Time
  | .write snapshot =>
    let plan := rehearsal.plans rehearsal.inserts
    { rehearsal.note (.insert snapshot) with
      inserts := rehearsal.inserts + 1
      owed := some (Timeline.wait rehearsal.clock plan.takes,
        if plan.fails then .notWritten else .written) }
  | .publish _ =>
    { rehearsal.note (.publish newData) with
      owed := some (Timeline.wait rehearsal.clock (rehearsal.publishing (rehearsal.inserts - 1)),
        if rehearsal.plan.publishFails then .notPublished else .published) }
  | .emit snapshot =>
    if rehearsal.handsOn then rehearsal.note (.emit snapshot.timestamp) else rehearsal
  | .cancel =>
    match rehearsal.owed with
    | some (_, .written) | some (_, .notWritten) =>
      { rehearsal.note .insertCancelled with owed := none }
    | _ => { rehearsal with owed := none }
  | .returned snapshot => rehearsal.note (.tickReturned snapshot.isSome)
  | .raised error => rehearsal.note (.tickRaised error)
  | .stopped cancelled => rehearsal.note (.stopped cancelled)
  | .stopFailed error => rehearsal.note (.stopFailed error)
  | .count metric => rehearsal.count metric

/-- Tells the ticker of an event and does what it asks for. -/
def tell (rehearsal : Rehearsal Time) (event : Ticker.Event) : Rehearsal Time :=
  let (ticker, effects) :=
    rehearsal.ticker.step rehearsal.clock (rehearsal.quotes.take rehearsal.wallClock) event
  effects.foldl perform { rehearsal with ticker }

/-- What is due next, and when: of several things at one time what the store owes comes first, then
the end of a stop's patience. -/
def next? (rehearsal : Rehearsal Time) : Option (Time × Ticker.Event) :=
  let sooner (left right : Option (Time × Ticker.Event)) :=
    match left, right with
    | some left, some right => if right.1 < left.1 then some right else some left
    | some left, none => some left
    | none, right => right
  let patience := rehearsal.ticker.stops.head?.map fun time => (time, Ticker.Event.graceOver)
  let wake := match rehearsal.ticker.loop with
    | .waiting _ wakeAt => some (wakeAt, Ticker.Event.wake)
    | _ => none
  sooner rehearsal.owed (sooner patience wake)

/-- Jumps to an event that is due. -/
def jump (rehearsal : Rehearsal Time) (time : Time) (event : Ticker.Event) : Rehearsal Time :=
  let rehearsal := match event with
    | .notWritten => { rehearsal with clock := time, owed := none }.note .insertFailed
    | .written | .published | .notPublished => { rehearsal with clock := time, owed := none }
    | _ => { rehearsal with clock := time }
  rehearsal.tell event

/-- Lets everything happen that is due up to a time; at most so many events. -/
def runUntil (limit : Time) : Nat → Rehearsal Time → Rehearsal Time
  | 0, rehearsal => rehearsal
  | budget + 1, rehearsal =>
    match rehearsal.next? with
    | none => rehearsal
    | some (time, event) =>
      if time ≤ limit then runUntil limit budget (rehearsal.jump time event) else rehearsal

/-- A direct tick or a stop that has not ended yet. -/
def busy (rehearsal : Rehearsal Time) : Bool :=
  !rehearsal.ticker.stops.isEmpty ||
    rehearsal.ticker.current.any fun tick => tick.caller = .direct

/-- Lets everything come to its end that was asked for from outside. -/
def settle : Nat → Rehearsal Time → Rehearsal Time
  | 0, rehearsal => rehearsal
  | budget + 1, rehearsal =>
    if rehearsal.busy then
      match rehearsal.next? with
      | none => rehearsal
      | some (time, event) => settle budget (rehearsal.jump time event)
    else rehearsal

def act (rehearsal : Rehearsal Time) : Action → Rehearsal Time
  | .update feed value =>
    match rehearsal.wallClock with
    | .error _ => rehearsal
    | .ok now =>
      match rehearsal.quotes.update feed value now with
      | (quotes, true) => { rehearsal with quotes }.count (.feedUpdate feed)
      | (_, false) => rehearsal
  | .start => rehearsal.tell .start
  | .stop => rehearsal.tell .stop
  | .tick => rehearsal.tell .tick

/-- Follows a list of timed actions, with at most `budget` events before each of them and after the
last. -/
def follow (budget : Nat) (rehearsal : Rehearsal Time) : List (Time × Action) → Rehearsal Time
  | [] => settle budget rehearsal
  | (time, action) :: actions =>
    let reached := runUntil time budget rehearsal
    let clock := if reached.clock < time then time else reached.clock
    follow budget ({ reached with clock }.act action) actions

end Rehearsal
end PriceBoard
