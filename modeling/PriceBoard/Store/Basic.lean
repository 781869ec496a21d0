import PriceBoard.Snapshot.Record
import PriceBoard.Store.Index

/-!
# The store

One record for each millisecond that has a snapshot, under a key that holds the millisecond, and an
index of the milliseconds. Writing a snapshot merges it into the record of its millisecond.
-/
namespace PriceBoard

open PriceBoard.Decimal

structure Store where
  records : List (String × Record)
  index : Index

namespace Store

def empty : Store := ⟨[], []⟩

def recordKey (ms : Int) : String := "snapshot:" ++ intText ms

def record? (store : Store) (ms : Int) : Option Record := store.records.lookup (recordKey ms)

def mergeInto (record fields : Record) : Record :=
  fields.foldl (fun record field => setMember field.1 field.2 record) record

def dropRecord (store : Store) (ms : Int) : Store :=
  { store with records := store.records.filter (·.1 ≠ recordKey ms) }

/-- Writes a snapshot's record and index entry at once. A record that is to be kept for no time at
all is gone at once; its index entry stays. -/
def write (store : Store) (retention : Int) (snapshot : Snapshot) : Store :=
  let ms := snapshot.ms
  let record := mergeInto ((store.record? ms).getD []) snapshot.toRecord
  let store : Store :=
    ⟨setMember (recordKey ms) record store.records, store.index.add (intText ms) ms⟩
  if retention ≤ 0 then store.dropRecord ms else store

/-- Drops the index entries that lie further back from the newest than the retention. -/
def trim (store : Store) (retention : Int) (newest : Int) : Store :=
  { store with index := store.index.dropBelow (newest - retention * 1000) }

inductive ReadError where
  /-- An index member that is no whole number. -/
  | badMember
  | record (error : RecordError)
  | time (error : TimeError)
  deriving DecidableEq, Repr

def memberMs (member : String) : Except ReadError Int :=
  match readInteger member.toList with
  | .ok ms => .ok ms
  | .error _ => .error .badMember

def records? (store : Store) : List String → Except ReadError (List (Option Record))
  | [] => .ok []
  | member :: members =>
    match memberMs member with
    | .error error => .error error
    | .ok ms => (store.records? members).map (store.record? ms :: ·)

/-- Records that are missing or empty are passed over. -/
def decode : List (Option Record) → Except ReadError (List Snapshot)
  | [] => .ok []
  | none :: rest => decode rest
  | some [] :: rest => decode rest
  | some record :: rest =>
    match Snapshot.ofRecord record with
    | .error error => .error (.record error)
    | .ok snapshot => (decode rest).map (snapshot :: ·)

/-- The snapshots of the given members, in their order. -/
def load (store : Store) (members : List String) : Except ReadError (List Snapshot) :=
  (store.records? members).bind decode

end Store
end PriceBoard
