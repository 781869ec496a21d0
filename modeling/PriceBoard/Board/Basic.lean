import PriceBoard.Feed.Current
import PriceBoard.Feed.Trade
import PriceBoard.History
import PriceBoard.Snapshot.Message

/-!
# The board

The quotes of the feeds, the store of snapshots and the state of the store's commands, together with
the counts so far. A tick takes the complete quotes to the store and then to the live
channel: what is published has been written.
-/
namespace PriceBoard

open Feed (Quotes TakeError Payload TradeError)

structure BoardSettings where
  /-- Seconds. -/
  retention : Int
  /-- The most index entries a scan reads at once. -/
  batch : Int
  /-- The most snapshots a query answers. -/
  limit : Int
  deriving Repr

structure Board (Time : Type) where
  settings : BoardSettings
  quotes : Quotes
  store : Store
  conditions : Conditions Time
  now : DateTime
  clock : Time
  /-- Whether a snapshot has been written and handed on. -/
  ready : Bool
  metrics : List Metric

inductive BoardError where
  | take (error : TakeError)
  | time (error : TimeError)
  | trade (error : TradeError)
  | history (error : HistoryError)
  /-- A command of the store failed. -/
  | refused (message : String)
  /-- A write of the store failed. -/
  | notWritten (message : String)

structure TickReport where
  snapshot : Option Snapshot
  emitted : List Snapshot
  published : List String

namespace Board

variable {Time : Type} [Timeline Time]

def start (settings : BoardSettings) (feeds : List String) (now : DateTime) : Board Time :=
  ⟨settings, Quotes.empty feeds, Store.empty, Conditions.calm, now, 0, false, []⟩

def context (board : Board Time) : Query.Context := ⟨board.now, board.quotes.feeds⟩

def count (board : Board Time) (metrics : List Metric) : Board Time :=
  { board with metrics := board.metrics ++ metrics }

/-- Waits for a command, and tells with what message it failed, if it did. -/
def attempt (board : Board Time) (command : Command) : Board Time × Option String :=
  let condition := board.conditions command
  ({ board with clock := Timeline.wait board.clock condition.delay }, condition.failure)

/-- A command that would end at its deadline or later is out of time at the deadline. -/
def issue (deadline : Option Time) (command : Command) (board : Board Time) :
    Board Time × Issued :=
  let (after, failure) := board.attempt command
  let ended := (after, Issued.ofFailure failure)
  match deadline with
  | none => ended
  | some deadline =>
    if after.clock < deadline then ended else ({ board with clock := deadline }, .outOfTime)

/-- Nothing else happens to a board while a command takes its time. A scan takes two commands for a
batch, and each batch leaves less of the index. -/
def host : Host Time (Board Time) where
  clock := fun board => board.clock
  store := fun board => board.store
  issue := issue
  budget := fun board => 2 * board.store.index.length + 2

def update (board : Board Time) (feed : String) (value : Float) (time : Option DateTime) :
    Board Time × Bool :=
  match board.quotes.update feed value (time.getD board.now) with
  | (quotes, true) => (({ board with quotes }).count [.feedUpdate feed], true)
  | (_, false) => (board, false)

/-- A message that holds no trade is dropped. -/
def message (board : Board Time) (feed : String) (payload : Payload) :
    Board Time × Except TradeError Bool :=
  match Feed.readTrade payload with
  | .error error => (board, .error error)
  | .ok none => (board.count [.messageDropped feed], .ok false)
  | .ok (some trade) =>
    let (board, known) := board.update feed trade.price trade.time
    (board, .ok known)

/-- Writes a snapshot and then trims the index; a trim that fails is let go. -/
def insert (board : Board Time) (snapshot : Snapshot) : Board Time × Except BoardError Unit :=
  match board.attempt .write with
  | (board, some message) => (board, .error (.notWritten message))
  | (board, none) =>
    let retention := board.settings.retention
    let board := { board with store := board.store.write retention snapshot }
    match board.attempt .trim with
    | (board, some _) => (board, .ok ())
    | (board, none) =>
      ({ board with store := board.store.trim retention snapshot.ms }, .ok ())

/-- The message that subscribers receive. -/
def publish (board : Board Time) (event : String) (snapshot : Snapshot) :
    Board Time × Except BoardError String :=
  match board.attempt .publish with
  | (board, some message) => (board, .error (.refused message))
  | (board, none) => (board, .ok (snapshot.message event))

/-- Takes a snapshot to the store and, once it is written, to the live channel. -/
def emit (board : Board Time) (snapshot : Snapshot) : Board Time × TickReport :=
  match board.insert snapshot with
  | (board, .error _) => (board.count [.tick .persistFailed, .tickLatency], ⟨none, [], []⟩)
  | (board, .ok ()) =>
    match { board with ready := true }.publish newData snapshot with
    | (board, .error _) =>
      (board.count [.broadcastError, .tickLatency, .tick .emitted], ⟨some snapshot, [snapshot], []⟩)
    | (board, .ok message) =>
      (board.count [.tickLatency, .tick .emitted], ⟨some snapshot, [snapshot], [message]⟩)

def tick (board : Board Time) : Board Time × Except BoardError TickReport :=
  match board.quotes.take (.ok board.now) with
  | .error error => (board, .error (.take error))
  | .ok none => (board.count [.tick .incomplete], .ok ⟨none, [], []⟩)
  | .ok (some snapshot) =>
    let (board, report) := board.emit snapshot
    (board, .ok report)

/-- What a history query leaves behind. -/
def afterRun (run : History.Run (Board Time)) : Board Time × Except BoardError (List Snapshot) :=
  (run.world.count run.metrics, run.answer.mapError .history)

def ofWindow (board : Board Time) (choice : WindowChoice) (deadline : Option (Deadline Time)) :
    Board Time × Except BoardError (List Snapshot) :=
  afterRun (History.ofWindow host board.now board choice deadline)

def search (board : Board Time) (query : String) (deadline : Option (Deadline Time)) :
    Board Time × Except BoardError (List Snapshot) :=
  afterRun (History.search host board.context board.settings.limit board.settings.batch board
    query deadline)

def compile (board : Board Time) (query : String) : Board Time × Except BoardError Predicate :=
  match History.compile board.context query with
  | .error error => (board.count [.queryError .predicate .malformed], .error (.history error))
  | .ok predicate => (board, .ok predicate)

/-- A reading that nobody counts or limits. -/
def read (board : Board Time) (kind : QueryKind) (begin : Except TimeError Progress) :
    Board Time × Except BoardError (List Snapshot) :=
  match begin with
  | .error error => (board, .error (.time error))
  | .ok progress =>
    let (board, outcome) := Reading.runProgress host none board progress
    (board, (History.outcomeAnswer kind "" outcome).mapError .history)

def since (board : Board Time) (cutoff : DateTime) :
    Board Time × Except BoardError (List Snapshot) :=
  board.read .window (.ok (.more (Reading.since cutoff)))

def matching (board : Board Time) (predicate : Predicate) (limit : Int) :
    Board Time × Except BoardError (List Snapshot) :=
  board.read .predicate (Reading.matching predicate limit board.settings.batch)

/-- Deletes a snapshot's record and tells how many there were. -/
def forget (board : Board Time) (ms : Int) : Board Time × Nat :=
  ({ board with store := board.store.dropRecord ms },
    if (board.store.record? ms).isSome then 1 else 0)

/-- The record of each index member, where it is still there. -/
def dump (board : Board Time) : List (String × Option Record) :=
  board.store.index.map fun entry => (entry.member, board.store.record? entry.score)

end Board
end PriceBoard
