import PriceBoard.Metric
import PriceBoard.Query.Compile
import PriceBoard.Store.Reading
import PriceBoard.Window

/-!
# History queries

A query asks for the snapshots since the start of a window, the oldest first, or for those a text
describes, the newest first and up to a limit. It may be given a time limit. Slowness and failures of
the store replace the answer and never change it.
-/
namespace PriceBoard

open Store (ReadError)

/-- A time limit with the number as its caller wrote it. -/
structure Deadline (Time : Type) where
  limit : Time
  written : String

inductive HistoryError where
  | malformed (error : Query.QueryError)
  /-- A window token with too many digits. -/
  | tokenTooLong
  | time (error : TimeError)
  | timedOut (kind : QueryKind) (written : String)
  /-- A command of the store failed. -/
  | storage (kind : QueryKind) (message : String)
  | read (error : ReadError)
  | unfinished

def timeoutMessage (kind : QueryKind) (written : String) : String :=
  kind.name ++ " query exceeded " ++ written ++ "s"

/-- A window by its short form, or one that is already known. -/
inductive WindowChoice where
  | token (token : Option String)
  | window (window : Window)

namespace History

def windowCutoff (choice : WindowChoice) (now : DateTime) : Except HistoryError DateTime :=
  let window : Except HistoryError Window := match choice with
    | .window window => .ok window
    | .token token => (Window.readOrDefault token).mapError fun _ => HistoryError.tokenTooLong
  window.bind fun window => (window.cutoff now).mapError .time

def compile (context : Query.Context) (query : String) : Except HistoryError Predicate :=
  (Query.compile context query.toList).mapError .malformed

/-- The world after a query, the answer, and what is added to the counts. -/
structure Run (World : Type) where
  world : World
  answer : Except HistoryError (List Snapshot)
  metrics : List Metric

variable {Time World : Type}

/-- An answer that took no call of the store. -/
def Run.immediate (world : World) (answer : Except HistoryError (List Snapshot)) : Run World :=
  ⟨world, answer, []⟩

def outcomeAnswer (kind : QueryKind) (written : String) :
    ReadOutcome → Except HistoryError (List Snapshot)
  | .found snapshots => .ok snapshots
  | .refused message => .error (.storage kind message)
  | .outOfTime => .error (.timedOut kind written)
  | .failed error => .error (.read error)
  | .unfinished => .error .unfinished

def failureMetrics (kind : QueryKind) : Except HistoryError (List Snapshot) → List Metric
  | .error (.timedOut _ _) => [.queryError kind .timeout]
  | .error (.storage _ _) => [.queryError kind .storage]
  | _ => []

/-- The counts of a query that called the store. -/
def callMetrics (kind : QueryKind) (answer : Except HistoryError (List Snapshot)) : List Metric :=
  failureMetrics kind answer ++ [.queryLatency kind]

section

variable [Timeline Time]

/-- Runs a call of the store to its end, or to its time limit if that comes first. A limit that is not
positive is over before the call begins. -/
def limitedCall (host : Host Time World) (kind : QueryKind) (world : World)
    (deadline : Option (Deadline Time)) (begin : Except TimeError Progress) :
    World × Except HistoryError (List Snapshot) :=
  let call (stop : Option Time) (written : String) :=
    match begin with
    | .error error => (world, .error (.time error))
    | .ok progress =>
      let (world, outcome) := Reading.runProgress host stop world progress
      (world, outcomeAnswer kind written outcome)
  match deadline with
  | none => call none ""
  | some deadline =>
    if 0 < deadline.limit then call (some (host.clock world + deadline.limit)) deadline.written
    else (world, .error (.timedOut kind deadline.written))

def call (host : Host Time World) (kind : QueryKind) (world : World)
    (deadline : Option (Deadline Time)) (begin : Except TimeError Progress) : Run World :=
  let (world, answer) := limitedCall host kind world deadline begin
  ⟨world, answer, callMetrics kind answer⟩

/-- The snapshots of a window, the oldest first. -/
def ofWindow (host : Host Time World) (now : DateTime) (world : World) (choice : WindowChoice)
    (deadline : Option (Deadline Time)) : Run World :=
  match windowCutoff choice now with
  | .error error => .immediate world (.error error)
  | .ok cutoff => call host .window world deadline (.ok (.more (Reading.since cutoff)))

/-- The snapshots a text describes, the newest first. Nothing is called for a query that can match
nothing. -/
def search (host : Host Time World) (context : Query.Context) (limit batch : Int)
    (world : World) (query : String) (deadline : Option (Deadline Time)) : Run World :=
  match compile context query with
  | .error error => ⟨world, .error error, [.queryError .predicate .malformed]⟩
  | .ok predicate =>
    match predicate.contradictory with
    | .error error => .immediate world (.error (.time error))
    | .ok true => .immediate world (.ok [])
    | .ok false => call host .predicate world deadline (Reading.matching predicate limit batch)

end

end History
end PriceBoard
