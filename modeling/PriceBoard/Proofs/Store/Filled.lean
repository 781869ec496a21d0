import PriceBoard.Proofs.Board.Steps
import PriceBoard.Proofs.Store.Scan

/-!
# Stores of finite values

Inserts of snapshots with finite values, whichever of them fail, lead to stores from which every snapshot
is read back with finite values.
-/
namespace PriceBoard

open PriceBoard.Decimal

namespace Store

/-- Stores that inserts of finite values lead to. A record may run out before its index entry. -/
inductive Filled : Store → Prop where
  | empty : Filled Store.empty
  | insert {store : Store} (retention : ℤ) (insert : Insert)
      (noTimestamp : "timestamp" ∉ names insert.snapshot.values)
      (finite : insert.snapshot.FiniteValues) :
      Filled store → Filled (afterInsert retention store insert)
  | dropRecord {store : Store} (ms : ℤ) : Filled store → Filled (store.dropRecord ms)

theorem filled_reachable {store : Store} (filled : store.Filled) : store.Reachable := by
  induction filled with
  | empty => exact .empty
  | insert retention insert noTimestamp _ _ induction =>
      have written := Reachable.write retention insert.snapshot noTimestamp induction
      unfold afterInsert
      cases insert.trimFailure with
      | some message => exact written
      | none => exact .trim retention insert.ms written
  | dropRecord ms _ induction => exact .dropRecord ms induction

def FiniteRecord (record : Record) : Prop :=
  ∀ entry ∈ record, entry.1 ≠ "timestamp" → (Snapshot.readEntry entry).2.isFinite = true

theorem merge_finite {record : Record} (finite : FiniteRecord record) {snapshot : Snapshot}
    (noTimestamp : "timestamp" ∉ names snapshot.values) (values : snapshot.FiniteValues) :
    FiniteRecord (mergeInto record snapshot.toRecord) := by
  intro entry member feed
  rcases mem_merged member with new | old
  · rw [Snapshot.to_record_eq noTimestamp] at new
    rcases List.mem_cons.mp new with rfl | field
    · exact absurd rfl feed
    · have inFields := (mem_merged field).resolve_right List.not_mem_nil
      have read := List.mem_map_of_mem (f := Snapshot.readEntry) inFields
      rw [Snapshot.read_fields] at read
      exact values _ read
  · exact finite entry old feed

def FiniteRecords (store : Store) : Prop :=
  ∀ ms record, store.record? ms = some record → FiniteRecord record

theorem write_finite {store : Store} (finite : store.FiniteRecords) (retention : ℤ)
    {snapshot : Snapshot} (noTimestamp : "timestamp" ∉ names snapshot.values)
    (values : snapshot.FiniteValues) : (store.write retention snapshot).FiniteRecords := by
  intro ms record found
  by_cases dropped : retention ≤ 0
  · rw [record_write_dropped store dropped] at found
    split_ifs at found
    exact finite ms record found
  · rw [record_write store (by omega)] at found
    split_ifs at found
    · cases found
      apply merge_finite _ noTimestamp values
      cases before : store.record? snapshot.ms with
      | none => exact fun _ member => absurd member List.not_mem_nil
      | some record => exact finite _ record before
    · exact finite ms record found

theorem filled_finite {store : Store} (filled : store.Filled) : store.FiniteRecords := by
  induction filled with
  | empty => exact fun ms record found => by simp [record?, Store.empty] at found
  | insert retention insert noTimestamp values _ induction =>
      have written := write_finite induction retention noTimestamp values
      unfold afterInsert
      cases insert.trimFailure <;> exact written
  | dropRecord ms _ induction =>
      intro other record found
      rw [record_drop_record] at found
      split_ifs at found
      exact induction other record found

/-- What a filled store gives back is finite. -/
theorem snapshots_finite {store : Store} (filled : store.Filled) {entries : List IndexEntry}
    (indexed : ∀ entry ∈ entries, entry ∈ store.index) :
    ∀ snapshot ∈ store.snapshotsOf entries, snapshot.FiniteValues := by
  intro snapshot member
  obtain ⟨entry, inside, found⟩ := List.mem_filterMap.mp member
  have wellformed := reachable_wellformed (filled_reachable filled)
  have inRange := wellformed.index.inRange entry (indexed entry inside)
  cases stored : store.record? entry.score with
  | none => simp [snapshotAt?, stored] at found
  | some record =>
      obtain ⟨wall, _, _, decoded⟩ := snapshot_at_record wellformed inRange stored
      rw [decoded, Option.some.injEq] at found
      rw [← found]
      intro value member
      obtain ⟨field, kept, rfl⟩ := List.mem_map.mp member
      obtain ⟨inRecord, feed⟩ := List.mem_filter.mp kept
      exact filled_finite filled _ record stored field inRecord (of_decide_eq_true feed)

end Store

/-- An insert keeps the store filled, whatever of it fails. -/
theorem Board.insert_filled {Time : Type} [Timeline Time] {board : Board Time}
    (filled : board.store.Filled) {snapshot : Snapshot}
    (noTimestamp : "timestamp" ∉ names snapshot.values) (finite : snapshot.FiniteValues) :
    (board.insert snapshot).1.store.Filled := by
  cases writes : (board.conditions .write).failure with
  | some message =>
      obtain ⟨rests, _⟩ := @insert_refused _ _ board snapshot message writes
      rw [rests.store]
      exact filled
  | none =>
      obtain ⟨rests, _⟩ := @insert_written _ _ board snapshot writes
      rw [rests.store]
      exact .insert board.settings.retention ⟨snapshot, _⟩ noTimestamp finite filled

end PriceBoard
