import PriceBoard.Proofs.Store.Index

/-!
# Stores that writes, trims and deletions lead to

In each of them the index holds milliseconds in ascending order, and a record stands under the key of
its own millisecond. So the members of the index load to the snapshots of their milliseconds, without
those whose record is gone.
-/
namespace PriceBoard.Store

open PriceBoard.Decimal PriceBoard.DateTime

inductive Reachable : Store → Prop where
  | empty : Reachable Store.empty
  | write {store : Store} (retention : ℤ) (snapshot : Snapshot)
      (noTimestamp : "timestamp" ∉ names snapshot.values) :
      Reachable store → Reachable (store.write retention snapshot)
  | trim {store : Store} (retention newest : ℤ) :
      Reachable store → Reachable (store.trim retention newest)
  | dropRecord {store : Store} (ms : ℤ) : Reachable store → Reachable (store.dropRecord ms)

/-- What stands in a history that has gone on is the newest step, or stood in it before. -/
theorem newest_or_before {Step : Type} {steps earlier later : List Step} {newest found : Step}
    (same : steps ++ [newest] = earlier ++ found :: later) :
    (earlier = steps ∧ found = newest ∧ later = []) ∨
      ∃ between, later = between ++ [newest] ∧ steps = earlier ++ found :: between := by
  rcases List.eq_nil_or_concat' later with rfl | ⟨between, last, rfl⟩
  · obtain ⟨front, isNewest⟩ := List.append_inj' same rfl
    exact .inl ⟨front.symm, (List.cons.inj isNewest).1.symm, rfl⟩
  · rw [← List.cons_append, ← List.append_assoc] at same
    obtain ⟨front, isNewest⟩ := List.append_inj' same rfl
    exact .inr ⟨between, by rw [isNewest], front⟩

structure Wellformed (store : Store) : Prop where
  index : store.index.Wellformed
  records : ∀ ms record, store.record? ms = some record → Stored ms record

/-! ### Records by their milliseconds -/

theorem record_key_injective {left right : ℤ} (same : recordKey left = recordKey right) :
    left = right := by
  have chars := congrArg String.toList same
  rw [recordKey, recordKey, String.toList_append, String.toList_append] at chars
  exact int_text_injective (String.toList_injective (List.append_cancel_left chars))

theorem lookup_filter_ne {Value : Type} (name other : String) (members : List (String × Value)) :
    (members.filter (·.1 ≠ name)).lookup other =
      if other = name then none else members.lookup other := by
  induction members with
  | nil => simp
  | cons entry rest induction =>
      obtain ⟨first, value⟩ := entry
      rw [List.filter_cons]
      by_cases found : first = name
      · rw [if_neg (by simp [found]), induction, List.lookup_cons, found]
        by_cases same : other = name
        · rw [if_pos same, if_pos same]
        · have differ : (other == name) = false := by simpa using same
          rw [if_neg same, if_neg same, differ]
      · rw [if_pos (by simp [found]), List.lookup_cons, List.lookup_cons, induction]
        by_cases same : other = first
        · simp [same, found]
        · have differ : (other == first) = false := by simpa using same
          rw [differ]

theorem record_drop_record (store : Store) (ms other : ℤ) :
    (store.dropRecord ms).record? other = if other = ms then none else store.record? other := by
  rw [record?, dropRecord, lookup_filter_ne]
  by_cases same : other = ms
  · rw [if_pos same, if_pos (by rw [same])]
  · rw [if_neg same, if_neg fun key => same (record_key_injective key)]
    rfl

/-- The record that a write leaves under the snapshot's millisecond, if it keeps it. -/
def mergedRecord (store : Store) (snapshot : Snapshot) : Record :=
  mergeInto ((store.record? snapshot.ms).getD []) snapshot.toRecord

theorem record_write (store : Store) {retention : ℤ} (kept : 0 < retention) (snapshot : Snapshot)
    (other : ℤ) :
    (store.write retention snapshot).record? other =
      if other = snapshot.ms then some (store.mergedRecord snapshot) else store.record? other := by
  rw [write, if_neg (by omega), record?, lookup_set_member]
  by_cases same : other = snapshot.ms
  · rw [if_pos same, if_pos (by rw [same])]
    rfl
  · rw [if_neg same, if_neg fun key => same (record_key_injective key)]
    rfl

theorem record_write_dropped (store : Store) {retention : ℤ} (dropped : retention ≤ 0)
    (snapshot : Snapshot) (other : ℤ) :
    (store.write retention snapshot).record? other =
      if other = snapshot.ms then none else store.record? other := by
  rw [write, if_pos dropped, record_drop_record]
  by_cases same : other = snapshot.ms
  · rw [if_pos same, if_pos same]
  · rw [if_neg same, if_neg same, record?, lookup_set_member,
      if_neg fun key => same (record_key_injective key)]
    rfl

theorem index_write (store : Store) (retention : ℤ) (snapshot : Snapshot) :
    (store.write retention snapshot).index =
      store.index.add (intText snapshot.ms) snapshot.ms := by
  unfold write
  simp only
  split_ifs <;> rfl

/-! ### The invariant -/

theorem empty_wellformed : Wellformed Store.empty where
  index := ⟨List.Pairwise.nil, fun _ member => absurd member List.not_mem_nil,
    fun _ member => absurd member List.not_mem_nil⟩
  records ms record found := by simp [record?, empty] at found

theorem merged_record_stored {store : Store} (wellformed : store.Wellformed) {snapshot : Snapshot}
    (noTimestamp : "timestamp" ∉ names snapshot.values) :
    Stored snapshot.ms (store.mergedRecord snapshot) := by
  apply Snapshot.stored_merge noTimestamp
  cases found : store.record? snapshot.ms with
  | none => exact fun _ member => absurd member List.not_mem_nil
  | some record => exact (wellformed.records _ record found).readable

theorem write_wellformed {store : Store} (wellformed : store.Wellformed) (retention : ℤ)
    {snapshot : Snapshot} (noTimestamp : "timestamp" ∉ names snapshot.values) :
    (store.write retention snapshot).Wellformed where
  index := by
    rw [index_write]
    exact Index.add_wellformed wellformed.index (utc_epoch_ms_in_range snapshot.wall)
  records ms record found := by
    by_cases dropped : retention ≤ 0
    · rw [record_write_dropped store dropped] at found
      split_ifs at found
      exact wellformed.records ms record found
    · rw [record_write store (by omega)] at found
      split_ifs at found with same
      · cases found
        rw [same]
        exact merged_record_stored wellformed noTimestamp
      · exact wellformed.records ms record found

theorem trim_wellformed {store : Store} (wellformed : store.Wellformed) (retention newest : ℤ) :
    (store.trim retention newest).Wellformed where
  index := Index.filter_wellformed _ wellformed.index
  records := wellformed.records

theorem drop_record_wellformed {store : Store} (wellformed : store.Wellformed) (ms : ℤ) :
    (store.dropRecord ms).Wellformed where
  index := wellformed.index
  records other record found := by
    rw [record_drop_record] at found
    split_ifs at found
    exact wellformed.records other record found

theorem reachable_wellformed {store : Store} (reachable : store.Reachable) : store.Wellformed := by
  induction reachable with
  | empty => exact empty_wellformed
  | write retention snapshot noTimestamp _ induction =>
      exact write_wellformed induction retention noTimestamp
  | trim retention newest _ induction => exact trim_wellformed induction retention newest
  | dropRecord ms _ induction => exact drop_record_wellformed induction ms

/-! ### Loading -/

section

variable {store : Store}

def snapshotAt? (store : Store) (ms : ℤ) : Option Snapshot :=
  (store.record? ms).bind fun record => (Snapshot.ofRecord record).toOption

theorem snapshot_at_record (wellformed : store.Wellformed) {ms : ℤ} (inRange : MsInRange ms)
    {record : Record} (found : store.record? ms = some record) :
    ∃ wall : WallTime, (wall.micros : ℤ) = instantOfMs ms ∧
      Snapshot.ofRecord record = .ok ⟨wall, Snapshot.valuesOf record⟩ ∧
      store.snapshotAt? ms = some ⟨wall, Snapshot.valuesOf record⟩ := by
  obtain ⟨wall, micros, decoded⟩ :=
    Snapshot.of_record_stored inRange (wellformed.records ms record found)
  refine ⟨wall, micros, decoded, ?_⟩
  rw [snapshotAt?, found, Option.bind_some, decoded]
  rfl

theorem snapshot_at_instant (wellformed : store.Wellformed) {ms : ℤ} (inRange : MsInRange ms)
    {snapshot : Snapshot} (found : store.snapshotAt? ms = some snapshot) :
    snapshot.timestamp.instant = instantOfMs ms := by
  cases stored : store.record? ms with
  | none => simp [snapshotAt?, stored] at found
  | some record =>
      obtain ⟨wall, micros, _, decoded⟩ := snapshot_at_record wellformed inRange stored
      rw [decoded, Option.some.injEq] at found
      rw [← found]
      exact (utc_instant wall).trans micros

/-- Entries that are named as an index names them load, whether the index holds them or not. -/
theorem load_named (wellformed : store.Wellformed) (entries : List IndexEntry)
    (named : ∀ entry ∈ entries, entry.Named) :
    store.load (Index.members entries) =
      .ok (entries.filterMap fun entry => store.snapshotAt? entry.score) := by
  have found : store.records? (Index.members entries) =
      .ok (entries.map fun entry => store.record? entry.score) := by
    induction entries with
    | nil => rfl
    | cons entry rest induction =>
        obtain ⟨nameIs, inRange⟩ := named entry List.mem_cons_self
        have others := induction fun other member => named other (List.mem_cons_of_mem _ member)
        have read : memberMs entry.member = .ok entry.score := by
          rw [memberMs, nameIs, read_ms inRange]
        rw [Index.members, List.map_cons, records?, read]
        rw [Index.members] at others
        simp only [others]
        rfl
  rw [load, found]
  change decode (entries.map fun entry => store.record? entry.score) = _
  clear found
  induction entries with
  | nil => rfl
  | cons entry rest induction =>
      have inRange := (named entry List.mem_cons_self).inRange
      have others := induction fun other member => named other (List.mem_cons_of_mem _ member)
      rw [List.map_cons, List.filterMap_cons]
      cases stored : store.record? entry.score with
      | none =>
          have gone : store.snapshotAt? entry.score = none := by rw [snapshotAt?, stored]; rfl
          rw [gone]
          exact others
      | some record =>
          obtain ⟨wall, _, decoded, snapshot⟩ := snapshot_at_record wellformed inRange stored
          have timestamp := (wellformed.records _ record stored).timestamp
          rw [snapshot]
          cases record with
          | nil => simp at timestamp
          | cons field fields =>
              simp only [decode, decoded, others]
              rfl

theorem load_entries (wellformed : store.Wellformed) (entries : List IndexEntry)
    (indexed : ∀ entry ∈ entries, entry ∈ store.index) :
    store.load (Index.members entries) =
      .ok (entries.filterMap fun entry => store.snapshotAt? entry.score) :=
  load_named wellformed entries fun entry member =>
    wellformed.index.entry_named (indexed entry member)

end

end PriceBoard.Store
