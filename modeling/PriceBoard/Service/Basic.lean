import PriceBoard.Board.Listening
import PriceBoard.Retry
import PriceBoard.Ticker.Basic
import PriceBoard.Web.Serve

/-!
# The running service

A service listens to the streams of its feeds, lets a ticker take the board's snapshots to the store,
relays what is published to its live clients and serves requests, all on one clock. Time passes only
by jumping to what is due next.
-/
namespace PriceBoard

open Feed (Activity)

/-- A client of the live channel. -/
structure Client (Time : Type) where
  name : String
  joined : Time
  /-- Its first message breaks it. -/
  fragile : Bool
  listening : Bool
  sent : List (Time × String)

/-- What the store is doing for the ticker. -/
inductive Errand where
  | write (snapshot : Snapshot)
  | trim (snapshot : Snapshot)
  | publish (snapshot : Snapshot)

/-- What can be seen of a service. -/
inductive ServiceNote where
  | pingFailed
  | started
  | startFailed
  | response (result : Except Web.Fault Web.Response)
  | updated (known : Bool)
  | stopped
  | stopFailed (error : TickError)

structure Service (Time : Type) where
  /-- What the wall clock shows at time zero. -/
  opening : DateTime
  web : Web.SiteSettings Time
  board : Board Time
  ticker : Ticker Time
  owed : Option (Time × Errand)
  /-- What the streams of the feeds are still to bring, in order of time. -/
  incoming : List (Time × String × Activity Time)
  clients : List (Client Time)
  connections : List (String × Time)
  /-- Whether the streams have been closed and the store has been released. -/
  released : Bool
  notes : List (Time × ServiceNote)

namespace Service

variable {Time : Type} [Timeline Time]

def clock (service : Service Time) : Time := service.board.clock

def note (service : Service Time) (note : ServiceNote) : Service Time :=
  { service with notes := service.notes ++ [(service.clock, note)] }

def moveTo (service : Service Time) (time : Time) : Service Time :=
  { service with board := service.board.moveTo service.opening time }

/-- When a command that is issued now will have taken its time. -/
def dueAfter (service : Service Time) (command : Command) : Time :=
  Timeline.wait service.clock (service.board.conditions command).delay

def perform (service : Service Time) : Ticker.Effect → Service Time
  | .write snapshot => { service with owed := some (service.dueAfter .write, .write snapshot) }
  | .publish snapshot => { service with owed := some (service.dueAfter .publish, .publish snapshot) }
  | .emit _ => { service with board := { service.board with ready := true } }
  | .cancel => { service with owed := none }
  | .returned _ => service
  | .raised _ => service
  | .stopped _ => { service.note .stopped with incoming := [], released := true }
  | .stopFailed error => service.note (.stopFailed error)
  | .count metric => { service with board := service.board.count [metric] }

def tell (service : Service Time) (event : Ticker.Event) : Service Time :=
  let taken := service.board.quotes.take
    (service.opening.plusMicros (Timeline.micros service.clock))
  let (ticker, effects) := service.ticker.step service.clock taken event
  effects.foldl perform { service with ticker }

def Client.receive (client : Client Time) (time : Time) (message : String) : Client Time :=
  if client.listening then
    { client with sent := client.sent ++ [(time, message)], listening := !client.fragile }
  else client

/-- Ends an errand of the store whose time is over. -/
def finish (service : Service Time) (errand : Errand) : Service Time :=
  let service := { service with owed := none }
  let board := service.board
  match errand with
  | .write snapshot =>
    match (board.conditions .write).failure with
    | some _ => service.tell .notWritten
    | none =>
      let store := board.store.write board.settings.retention snapshot
      { service with
        board := { board with store }
        owed := some (service.dueAfter .trim, .trim snapshot) }
  | .trim snapshot =>
    match (board.conditions .trim).failure with
    | some _ => service.tell .written
    | none =>
      let store := board.store.trim board.settings.retention snapshot.ms
      { service with board := { board with store } }.tell .written
  | .publish snapshot =>
    match (board.conditions .publish).failure with
    | some _ => service.tell .notPublished
    | none =>
      let message := snapshot.message newData
      { service with
        clients := service.clients.map fun client => Client.receive client service.clock message
      }.tell .published

def hear (service : Service Time) (feed : String) (activity : Activity Time) : Service Time :=
  let (board, heard) := service.board.hear feed activity
  match heard with
  | some .connecting =>
    { service with board, connections := service.connections ++ [(feed, service.clock)] }
  | _ => { service with board }

/-- What is due next. -/
inductive Due (Time : Type) where
  | errand (errand : Errand)
  | activity (feed : String) (activity : Activity Time)
  | ticker (event : Ticker.Event)

def sooner (left right : Option (Time × Due Time)) : Option (Time × Due Time) :=
  match left, right with
  | some left, some right => if right.1 < left.1 then some right else some left
  | some left, none => some left
  | none, right => right

/-- What is due next, and when. Of several things at one time the errand of the store comes first,
then what the streams bring, then the end of a stop's patience, and the ticker's own deadline last. -/
def next? (service : Service Time) : Option (Time × Due Time) :=
  let errand := service.owed.map fun (time, errand) => (time, Due.errand errand)
  let arrival := service.incoming.head?.map fun (time, feed, activity) =>
    (time, Due.activity feed activity)
  let patience := service.ticker.stops.head?.map fun time => (time, Due.ticker .graceOver)
  let wake := match service.ticker.loop with
    | .waiting _ wakeAt => some (wakeAt, Due.ticker .wake)
    | _ => none
  sooner errand (sooner arrival (sooner patience wake))

/-- Jumps to what is due. -/
def jump (service : Service Time) (time : Time) (due : Due Time) : Service Time :=
  let service := service.moveTo time
  match due with
  | .errand errand => service.finish errand
  | .activity feed activity =>
    { service with incoming := service.incoming.tail }.hear feed activity
  | .ticker event => service.tell event

/-- Lets everything happen that is due up to a time, at most `budget` things. A loop whose interval is
negative or not a number, and whose ticks find too few quotes, is always due again at the same moment:
of itself it never lets time pass. Here time goes on once the budget is spent. -/
def runUntil (limit : Time) : Nat → Service Time → Service Time
  | 0, service => service
  | budget + 1, service =>
    match service.next? with
    | none => service
    | some (time, due) =>
      if time ≤ limit then runUntil limit budget (service.jump time due) else service

/-- Lets time pass up to a moment, with everything that is due on the way. -/
def passUntil (budget : Nat) (service : Service Time) (time : Time) : Service Time :=
  let service := runUntil time budget service
  if service.clock < time then service.moveTo time else service

/-- Issues a command for a reader, while the service goes on. -/
def issue (budget : Nat) (deadline : Option Time) (command : Command) (service : Service Time) :
    Service Time × Issued :=
  let finished := service.dueAfter command
  let late := match deadline with
    | none => none
    | some deadline => if finished < deadline then none else some deadline
  match late with
  | some deadline => (passUntil budget service deadline, .outOfTime)
  | none =>
    let service := if service.clock < finished then passUntil budget service finished else service
    (service, .ofFailure (service.board.conditions command).failure)

def site (settings : Web.SiteSettings Time) (budget : Nat) : Web.Site Time (Service Time) where
  settings
  host := {
    clock := clock
    store := fun service => service.board.store
    issue := issue budget
    budget := fun service => 2 * service.board.store.index.length + budget }
  board := fun service => service.board
  count := fun metrics service => { service with board := service.board.count metrics }

/-- Lets every stop come to its end. -/
def settle : Nat → Service Time → Service Time
  | 0, service => service
  | budget + 1, service =>
    if service.ticker.stops.isEmpty then service
    else
      match service.next? with
      | none => service
      | some (time, due) => settle budget (service.jump time due)

end Service
end PriceBoard
