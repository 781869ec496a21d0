import PriceBoard.Service.Basic

/-!
# The life of a service

A service starts once the store answers a ping, and is tried again a few times if it does not. After
the last action the clients leave, the ticker is stopped within its grace period, and then the streams
are closed and the store is released.
-/
namespace PriceBoard

open Feed (Attempt)

structure ServiceSettings (Time : Type) where
  board : BoardSettings
  web : Web.SiteSettings Time
  /-- Each feed with the address of its stream. -/
  feeds : List (String × String)
  listens : Bool
  backoff : Backoff Time
  interval : Time
  grace : Time

/-- What is done to a service from outside. -/
inductive ServiceAction (Time : Type) where
  | request (request : Web.Request)
  | update (feed : String) (value : Float)
  | join (client : String) (fragile : Bool)
  | leave (client : String)
  /-- A client says something; nobody listens. -/
  | say
  | fail (command : Command) (message : Option String)
  | delay (command : Command) (seconds : Time)

namespace Service

variable {Time : Type} [Timeline Time]

/-- How the store is pinged at the start: six times at most, from half a second on, up to eight. -/
def startPolicy (half fifth : Time) : Retry.Policy Time where
  tries := 6
  backoff := ⟨half, Timeline.ofNat 8⟩
  jitter := fifth
  announcement := none

/-- The tries at the start: so many pings fail, and the next one succeeds. -/
def pings (policy : Retry.Policy Time) (share : Time) (failures : Nat) : Retry.Run Time Unit Unit :=
  Retry.run policy (fun _ => true) (fun _ => share)
    (fun place => if place < failures then .failure () else .success ()) 0

/-- A service whose feeds' streams meet the given attempts, from a moment on. -/
def make (settings : ServiceSettings Time) (opening : DateTime)
    (attempts : String → List (Attempt Time)) (clock : Time) : Service Time :=
  let board : Board Time :=
    (Board.start settings.board (settings.feeds.map (·.1)) opening).moveTo opening clock
  let activities := settings.feeds.flatMap fun (feed, _) =>
    (Feed.Stream.activities settings.backoff clock (attempts feed)).map fun (time, activity) =>
      (time, feed, activity)
  { opening, board
    web := settings.web
    ticker := Ticker.make settings.interval settings.grace
    owed := none
    incoming := if settings.listens then
      activities.mergeSort fun left right => ¬ right.1 < left.1 else []
    clients := []
    connections := []
    released := false
    notes := [] }

def act (budget : Nat) (service : Service Time) : ServiceAction Time → Service Time
  | .request request =>
    let (service, result) := Web.serve (site service.web budget) service request
    service.note (.response result)
  | .update feed value =>
    let (board, known) := service.board.update feed value none
    { service with board }.note (.updated known)
  | .join name fragile =>
    { service with clients := service.clients ++ [⟨name, service.clock, fragile, true, []⟩] }
  | .leave name =>
    { service with clients := service.clients.map fun client =>
        if client.name = name then { client with listening := false } else client }
  | .say => service
  | .fail command message =>
    { service with board := { service.board with
        conditions := service.board.conditions.withFailure command message } }
  | .delay command seconds =>
    { service with board := { service.board with
        conditions := service.board.conditions.withDelay command seconds } }

/-- Follows a list of timed actions; one whose time is past comes at once. -/
def follow (budget : Nat) (service : Service Time) : List (Time × ServiceAction Time) → Service Time
  | [] => service
  | (time, action) :: actions =>
    follow budget ((passUntil budget service time).act budget action) actions

/-- The clients leave, and the ticker is stopped. Only when its stop has ended are the streams closed
and the store released. -/
def shutDown (budget : Nat) (service : Service Time) : Service Time :=
  let clients := service.clients.map fun client => { client with listening := false }
  settle budget ({ service with clients }.tell .stop)

/-- The whole life of a service. -/
def live (settings : ServiceSettings Time) (opening : DateTime)
    (attempts : String → List (Attempt Time)) (pings : Retry.Run Time Unit Unit) (budget : Nat)
    (actions : List (Time × ServiceAction Time)) : Service Time :=
  let service := make settings opening attempts pings.clock
  let calls := pings.events.map (·.1)
  match pings.ending with
  | .success _ =>
    let notes := calls.dropLast.map fun time => (time, ServiceNote.pingFailed)
    let service := ({ service with notes }.note .started).tell .start
    shutDown budget (follow budget service actions)
  | _ =>
    { service with notes := calls.map fun time => (time, ServiceNote.pingFailed) }.note .startFailed

end Service
end PriceBoard
