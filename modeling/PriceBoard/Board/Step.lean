import PriceBoard.Board.Basic

/-!
# Runs of the board

A run is a list of steps, each of which has a reply or an error. An error leaves the board usable.
-/
namespace PriceBoard

open Feed (Payload Quote)

inductive Step (Time : Type) where
  | setNow (now : DateTime)
  | update (feed : String) (value : Float) (time : Option DateTime)
  | message (feed : String) (payload : Payload)
  | missing
  | values
  | quotes
  | tick
  | insert (snapshot : Snapshot)
  | publish (event : String) (snapshot : Snapshot)
  | since (cutoff : DateTime)
  | matching (predicate : Predicate) (limit : Int)
  | window (choice : WindowChoice) (deadline : Option (Deadline Time))
  | query (query : String) (deadline : Option (Deadline Time))
  | cutoff (choice : WindowChoice)
  | compile (query : String)
  | fail (command : Command) (message : Option String)
  | delay (command : Command) (seconds : Time)
  | forget (ms : Int)
  | dump

inductive Reply where
  | done
  | flag (value : Bool)
  | feeds (feeds : List String)
  | values (values : Option (List (String × Float)))
  | quotes (quotes : List Quote)
  | tick (report : TickReport) (index : List String)
  | index (index : List String)
  | published (messages : List String)
  | snapshots (snapshots : List Snapshot)
  | predicate (predicate : Predicate)
  | count (count : Nat)
  | records (records : List (String × Option Record))

namespace Board

variable {Time : Type} [Timeline Time]

/-- Each configured feed that has reported, at its first place among the feeds. -/
def reported (board : Board Time) : List Quote :=
  board.quotes.feeds.eraseDups.filterMap board.quotes.quote?

def step (board : Board Time) : Step Time → Board Time × Except BoardError Reply
  | .setNow now => ({ board with now }, .ok .done)
  | .update feed value time =>
    let (board, known) := board.update feed value time
    (board, .ok (.flag known))
  | .message feed payload =>
    let (board, result) := board.message feed payload
    (board, (result.map .flag).mapError .trade)
  | .missing => (board, .ok (.feeds board.quotes.missing))
  | .values => (board, (board.quotes.completeValues.map .values).mapError fun error =>
      .take (.missingValue error))
  | .quotes => (board, .ok (.quotes board.reported))
  | .tick =>
    let (board, result) := board.tick
    (board, result.map (.tick · board.store.index.members))
  | .insert snapshot =>
    let (board, result) := board.insert snapshot
    (board, result.map fun _ => .index board.store.index.members)
  | .publish event snapshot =>
    let (board, result) := board.publish event snapshot
    (board, result.map fun message => .published [message])
  | .since cutoff =>
    let (board, result) := board.since cutoff
    (board, result.map .snapshots)
  | .matching predicate limit =>
    let (board, result) := board.matching predicate limit
    (board, result.map .snapshots)
  | .window choice deadline =>
    let (board, result) := board.ofWindow choice deadline
    (board, result.map .snapshots)
  | .query query deadline =>
    let (board, result) := board.search query deadline
    (board, result.map .snapshots)
  | .cutoff choice =>
    (board, ((History.windowCutoff choice board.now).mapError .history).map fun cutoff =>
      .predicate (.timeAfter cutoff))
  | .compile query =>
    let (board, result) := board.compile query
    (board, result.map .predicate)
  | .fail command message =>
    ({ board with conditions := board.conditions.withFailure command message }, .ok .done)
  | .delay command seconds =>
    ({ board with conditions := board.conditions.withDelay command seconds }, .ok .done)
  | .forget ms =>
    let (board, count) := board.forget ms
    (board, .ok (.count count))
  | .dump => (board, .ok (.records board.dump))

def run (board : Board Time) : List (Step Time) → Board Time × List (Except BoardError Reply)
  | [] => (board, [])
  | step :: steps =>
    let (board, reply) := board.step step
    let (board, replies) := board.run steps
    (board, reply :: replies)

end Board
end PriceBoard
