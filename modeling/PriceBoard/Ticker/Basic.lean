import PriceBoard.Feed.Current
import PriceBoard.Metric
import PriceBoard.Timeline

/-!
# The ticker

A tick writes the snapshot of the moment and, once it is written, publishes it and hands it on. Ticks
never overlap: one that is asked for while another is in progress is dropped. A loop asks for a tick
at every deadline, an interval apart; deadlines that pass during a tick are left out. A stop lets the
loop's tick end within a grace period and then cancels it.

The ticker is a machine. It is told what happens and when, and answers with what is to be done; it
does no waiting of its own.
-/
namespace PriceBoard

open Feed (TakeError)

inductive TickError where
  | take (error : TakeError)
  /-- Deadlines that are no time apart have no next one. -/
  | zeroInterval
  /-- The deadlines that have passed cannot be numbered. -/
  | quotient (error : QuotientError)
  deriving DecidableEq, Repr

inductive Caller where
  | loop
  | direct
  deriving DecidableEq, Repr

inductive Stage where
  | writing
  | publishing
  deriving DecidableEq, Repr

/-- A tick in progress. -/
structure Tick where
  caller : Caller
  snapshot : Snapshot
  stage : Stage

inductive Loop (Time : Type) where
  | absent
  /-- Asleep until `wakeAt`, for the tick of `deadline`. -/
  | waiting (deadline wakeAt : Time)
  /-- In the tick of `deadline`. -/
  | ticking (deadline : Time)
  | failed (error : TickError)

structure Ticker (Time : Type) where
  interval : Time
  grace : Time
  loop : Loop Time
  current : Option Tick
  /-- For each stop that waits for the loop, when its patience ends. -/
  stops : List Time

namespace Ticker

inductive Event where
  | start
  | stop
  /-- The loop's sleep is over. -/
  | wake
  /-- A tick that the loop has not asked for. -/
  | tick
  | written
  | notWritten
  | published
  | notPublished
  /-- The patience of a stop is over. -/
  | graceOver
  deriving DecidableEq, Repr

inductive Effect where
  | write (snapshot : Snapshot)
  | publish (snapshot : Snapshot)
  /-- A written snapshot is handed on, whether or not it could be published. -/
  | emit (snapshot : Snapshot)
  /-- The write or the publishing in progress is given up. -/
  | cancel
  /-- A direct tick has ended, with its snapshot if there is one. -/
  | returned (snapshot : Option Snapshot)
  | raised (error : TickError)
  /-- A stop has ended; the loop's tick was cancelled or not. -/
  | stopped (cancelled : Bool)
  | stopFailed (error : TickError)
  | count (metric : Metric)

variable {Time : Type} [Timeline Time]

def make (interval grace : Time) : Ticker Time := ⟨interval, grace, .absent, none, []⟩

/-- The first deadline after `now`, at a whole number of intervals from the last one. -/
def nextDeadline (interval deadline now : Time) : Except TickError Time :=
  let next := deadline + interval
  if next ≤ now then
    if 0 < interval ∨ interval < 0 then
      match Timeline.floorQuotient (now - next) interval with
      | .error error => .error (.quotient error)
      | .ok passed => .ok (next + Timeline.ofInt (passed + 1) * interval)
    else .error .zeroInterval
  else .ok next

def sleepUntil (deadline now : Time) : Loop Time :=
  .waiting deadline (Timeline.wait now (deadline - now))

/-- The loop goes on after its tick, or ends if it is to stop. -/
def resume (ticker : Ticker Time) (now deadline : Time) : Ticker Time × List Effect :=
  match nextDeadline ticker.interval deadline now, ticker.stops with
  | .error error, [] => ({ ticker with loop := .failed error }, [])
  | .error error, stops =>
    ({ ticker with loop := .absent, stops := [] }, stops.map fun _ => .stopFailed error)
  | .ok next, [] => ({ ticker with loop := sleepUntil next now }, [])
  | .ok _, stops =>
    ({ ticker with loop := .absent, stops := [] }, stops.map fun _ => .stopped false)

/-- What follows the end of a tick for the one who asked for it. -/
def conclude (ticker : Ticker Time) (now : Time) (caller : Caller) (result : Option Snapshot) :
    Ticker Time × List Effect :=
  match caller, ticker.loop with
  | .direct, _ => (ticker, [.returned result])
  | .loop, .ticking deadline => ticker.resume now deadline
  | .loop, _ => (ticker, [])

/-- Ends the tick in progress. -/
def finish (ticker : Ticker Time) (now : Time) (tick : Tick) (result : Option Snapshot)
    (effects : List Effect) : Ticker Time × List Effect :=
  let (ticker, more) := conclude { ticker with current := none } now tick.caller result
  (ticker, effects ++ more)

/-- Begins a tick with what can be taken at the moment. -/
def begin (ticker : Ticker Time) (now : Time) (caller : Caller)
    (taken : Except TakeError (Option Snapshot)) : Ticker Time × List Effect :=
  match ticker.current, taken, caller with
  | some _, _, _ =>
    let (ticker, more) := ticker.conclude now caller none
    (ticker, .count (.tick .overlap) :: more)
  | none, .error error, .direct => (ticker, [.raised (.take error)])
  | none, .error error, .loop => ({ ticker with loop := .failed (.take error) }, [])
  | none, .ok none, _ =>
    let (ticker, more) := ticker.conclude now caller none
    (ticker, .count (.tick .incomplete) :: more)
  | none, .ok (some snapshot), _ =>
    ({ ticker with current := some ⟨caller, snapshot, .writing⟩ }, [.write snapshot])

/-- Gives up the loop's tick, and with it the loop. -/
def cancel (ticker : Ticker Time) (stops : List Time) : Ticker Time × List Effect :=
  ({ ticker with loop := .absent, current := none, stops := [] },
    .cancel :: .count .tickLatency :: stops.map fun _ => .stopped true)

/-- What the ticker does when an event arrives at `now`; `taken` is what a tick would find. An event
that does not fit the ticker's state changes nothing. -/
def step (ticker : Ticker Time) (now : Time) (taken : Except TakeError (Option Snapshot)) :
    Event → Ticker Time × List Effect
  | .start =>
    match ticker.loop with
    | .absent => ({ ticker with loop := sleepUntil (now + ticker.interval) now }, [])
    | _ => (ticker, [])
  | .stop =>
    match ticker.loop with
    | .absent => (ticker, [.stopped false])
    | .waiting _ _ => ({ ticker with loop := .absent }, [.stopped false])
    | .failed error => ({ ticker with loop := .absent }, [.stopFailed error])
    | .ticking _ =>
      if 0 < ticker.grace then
        ({ ticker with stops := ticker.stops ++ [now + ticker.grace] }, [])
      else ticker.cancel (ticker.stops ++ [now])
  | .wake =>
    match ticker.loop with
    | .waiting deadline _ =>
      begin { ticker with loop := .ticking deadline } now .loop taken
    | _ => (ticker, [])
  | .tick => ticker.begin now .direct taken
  | .written =>
    match ticker.current with
    | some ⟨caller, snapshot, .writing⟩ =>
      ({ ticker with current := some ⟨caller, snapshot, .publishing⟩ }, [.publish snapshot])
    | _ => (ticker, [])
  | .notWritten =>
    match ticker.current with
    | some tick =>
      if tick.stage = .writing then
        ticker.finish now tick none [.count (.tick .persistFailed), .count .tickLatency]
      else (ticker, [])
    | none => (ticker, [])
  | .published =>
    match ticker.current with
    | some tick =>
      if tick.stage = .publishing then
        ticker.finish now tick (some tick.snapshot)
          [.count .tickLatency, .count (.tick .emitted), .emit tick.snapshot]
      else (ticker, [])
    | none => (ticker, [])
  | .notPublished =>
    match ticker.current with
    | some tick =>
      if tick.stage = .publishing then
        ticker.finish now tick (some tick.snapshot)
          [.count .broadcastError, .count .tickLatency, .count (.tick .emitted),
            .emit tick.snapshot]
      else (ticker, [])
    | none => (ticker, [])
  | .graceOver =>
    match ticker.loop, ticker.stops with
    | .ticking _, stop :: stops => ticker.cancel (stop :: stops)
    | _, _ => (ticker, [])

end Ticker
end PriceBoard
