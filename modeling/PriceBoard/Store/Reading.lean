import PriceBoard.Predicate.Bounds
import PriceBoard.Store.Basic
import PriceBoard.Store.Command

/-!
# Reading snapshots

A reading is a short program of commands: first the index, then the records it names. A scan for the
snapshots that a predicate accepts goes back in time batch by batch, within the predicate's time
bounds, and stops as soon as it has enough. Each command sees the store as it is at that moment.
-/
namespace PriceBoard

open Store (ReadError)

structure Scan where
  predicate : Predicate
  limit : Nat
  batch : Int
  low : Option Int
  high : Index.Limit
  /-- What has been found, the newest first. -/
  found : List Snapshot

inductive Reading where
  | sinceIndex (low : Int)
  | sinceRecords (members : List String)
  | scanIndex (scan : Scan)
  | scanRecords (scan : Scan) (members : List String)

/-- What a command of a reading leads to. -/
inductive Progress where
  | more (reading : Reading)
  | done (snapshots : List Snapshot)

namespace Scan

/-- Adds the snapshots that the predicate accepts, as long as the limit is not reached. -/
def accept (scan : Scan) : List Snapshot → Except ReadError Scan
  | [] => .ok scan
  | snapshot :: rest =>
    if scan.limit ≤ scan.found.length then .ok scan
    else
      match scan.predicate.holds snapshot with
      | .error error => .error (.time error)
      | .ok true => accept { scan with found := scan.found ++ [snapshot] } rest
      | .ok false => accept scan rest

end Scan

namespace Reading

def since (cutoff : DateTime) : Reading := .sinceIndex cutoff.epochMs

/-- Nothing is read for a predicate that is always false, or where nothing is wanted. -/
def matching (predicate : Predicate) (limit batch : Int) : Except TimeError Progress :=
  match predicate.contradictory with
  | .error error => .error error
  | .ok true => .ok (.done [])
  | .ok false =>
    if limit ≤ 0 then .ok (.done [])
    else
      predicate.bounds.map fun bounds =>
        .more (.scanIndex {
          predicate, batch
          limit := limit.toNat
          low := bounds.low.map (·.epochMs)
          high := match bounds.high with
            | some high => .upTo high.epochMs
            | none => .unbounded
          found := [] })

def command : Reading → Command
  | .sinceIndex _ => .ascending
  | .sinceRecords _ => .load
  | .scanIndex _ => .descending
  | .scanRecords _ _ => .load

/-- The effect of the reading's next command on a store. -/
def advance (store : Store) : Reading → Except ReadError Progress
  | .sinceIndex low =>
    match store.index.ascendingFrom low with
    | [] => .ok (.done [])
    | members => .ok (.more (.sinceRecords members))
  | .sinceRecords members => (store.load members).map .done
  | .scanIndex scan =>
    match store.index.descending scan.high scan.low scan.batch with
    | [] => .ok (.done scan.found)
    | first :: rest =>
      (Store.memberMs ((first :: rest).getLast (by simp))).map fun last =>
        .more (.scanRecords { scan with high := .before last } (first :: rest))
  | .scanRecords scan members =>
    match (store.load members).bind scan.accept with
    | .error error => .error error
    | .ok scan =>
      if scan.limit ≤ scan.found.length then .ok (.done scan.found) else .ok (.more (.scanIndex scan))

end Reading

/-- How a command ended. -/
inductive Issued where
  | answered
  | refused (message : String)
  /-- It would have gone beyond the deadline. -/
  | outOfTime
  deriving DecidableEq, Repr

def Issued.ofFailure : Option String → Issued
  | none => .answered
  | some message => .refused message

/-- Where readings run. Issuing a command lets its time pass, up to a deadline if there is one; the
world may go on meanwhile, and the command sees the store as it is afterwards. -/
structure Host (Time World : Type) where
  clock : World → Time
  store : World → Store
  issue : Option Time → Command → World → World × Issued
  /-- At least as many commands as a reading takes. -/
  budget : World → Nat

/-- How a reading ended. -/
inductive ReadOutcome where
  | found (snapshots : List Snapshot)
  | refused (message : String)
  | outOfTime
  | failed (error : ReadError)
  /-- The store kept answering beyond the budget of commands. -/
  | unfinished

namespace Reading

variable {Time World : Type}

def run (host : Host Time World) (deadline : Option Time) :
    Nat → World → Reading → World × ReadOutcome
  | 0, world, _ => (world, .unfinished)
  | budget + 1, world, reading =>
    match host.issue deadline reading.command world with
    | (world, .outOfTime) => (world, .outOfTime)
    | (world, .refused message) => (world, .refused message)
    | (world, .answered) =>
      match reading.advance (host.store world) with
      | .error error => (world, .failed error)
      | .ok (.done snapshots) => (world, .found snapshots)
      | .ok (.more reading) => run host deadline budget world reading

def runProgress (host : Host Time World) (deadline : Option Time) (world : World) :
    Progress → World × ReadOutcome
  | .done snapshots => (world, .found snapshots)
  | .more reading => run host deadline (host.budget world) world reading

end Reading
end PriceBoard
