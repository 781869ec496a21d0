/-!
# What is counted

Each event worth counting is one increment. The counts of a run are those of its increments.
-/
namespace PriceBoard

inductive TickOutcome where
  | emitted
  | incomplete
  | overlap
  | persistFailed
  deriving DecidableEq, Repr

def TickOutcome.name : TickOutcome → String
  | .emitted => "emitted"
  | .incomplete => "incomplete"
  | .overlap => "overlap"
  | .persistFailed => "persist_failed"

inductive QueryKind where
  | window
  | predicate
  deriving DecidableEq, Repr

def QueryKind.name : QueryKind → String
  | .window => "window"
  | .predicate => "predicate"

inductive QueryFailure where
  | timeout
  | storage
  | malformed
  deriving DecidableEq, Repr

def QueryFailure.name : QueryFailure → String
  | .timeout => "timeout"
  | .storage => "storage"
  | .malformed => "malformed"

inductive Metric where
  | feedUpdate (feed : String)
  | messageDropped (feed : String)
  | tick (outcome : TickOutcome)
  | tickLatency
  | broadcastError
  | queryLatency (kind : QueryKind)
  | queryError (kind : QueryKind) (failure : QueryFailure)
  deriving DecidableEq, Repr

namespace Metric

def labels : Metric → List (String × String)
  | .feedUpdate feed => [("feed", feed)]
  | .messageDropped feed => [("feed", feed)]
  | .tick outcome => [("outcome", outcome.name)]
  | .tickLatency => []
  | .broadcastError => []
  | .queryLatency kind => [("kind", kind.name)]
  | .queryError kind failure => [("kind", kind.name), ("reason", failure.name)]

def name : Metric → String
  | .feedUpdate _ => "dashboard_feed_updates_total"
  | .messageDropped _ => "dashboard_feed_messages_dropped_total"
  | .tick _ => "dashboard_ticks_total"
  | .tickLatency => "dashboard_tick_latency_seconds_count"
  | .broadcastError => "dashboard_broadcast_errors_total"
  | .queryLatency _ => "dashboard_query_latency_seconds_count"
  | .queryError _ _ => "dashboard_query_errors_total"

/-- The name with the labels in braces. -/
def key (metric : Metric) : String :=
  metric.name ++ "\x7b" ++
    ",".intercalate (metric.labels.map fun (label, value) => label ++ "=" ++ value) ++ "\x7d"

/-- The number of each kind of increment, in order of first mention. -/
def counts (increments : List Metric) : List (Metric × Nat) :=
  increments.eraseDups.map fun metric => (metric, increments.count metric)

end Metric
end PriceBoard
