import PriceBoard.Decimal.Layout
import PriceBoard.Decimal.Numeral
import PriceBoard.Snapshot.Basic

/-!
# Stored snapshots

A stored record maps names to texts: `timestamp` to whole milliseconds since the epoch, and each feed
to the shortest text that reads back as its value.
-/
namespace PriceBoard

open PriceBoard.Decimal

abbrev Record := List (String × String)

inductive RecordError where
  | noTimestamp
  | badTimestamp
  | badValue
  | time (error : TimeError)
  deriving DecidableEq, Repr

namespace Snapshot

def toRecord (snapshot : Snapshot) : Record :=
  membersOf (("timestamp", intText snapshot.ms) ::
    snapshot.values.map fun (feed, value) => (feed, floatText plainStyle value))

def readValues : Record → Except RecordError (List (String × Float))
  | [] => .ok []
  | (feed, text) :: rest =>
    match readFloat? text.toList with
    | none => .error .badValue
    | some value => (readValues rest).map ((feed, value) :: ·)

def ofRecord (record : Record) : Except RecordError Snapshot :=
  match record.lookup "timestamp" with
  | none => .error .noTimestamp
  | some text =>
    match readInteger text.toList with
    | .error _ => .error .badTimestamp
    | .ok ms =>
      match DateTime.ofEpochMs ms with
      | .error error => .error (.time error)
      | .ok timestamp =>
        (readValues (record.filter fun field => field.1 ≠ "timestamp")).map fun values =>
          ⟨timestamp.wall, values⟩

end Snapshot
end PriceBoard
