import PriceBoard.Proofs.Feed.Quotes
import PriceBoard.Proofs.Store.Retention

/-!
# Stores whose records have the same feeds

Where every record has the fields of the same feeds in the same order, a write leaves nothing of an
earlier record of its millisecond, and reading that millisecond gives the snapshot's own values.
-/
namespace PriceBoard

open PriceBoard.Decimal PriceBoard.DateTime

/-- Writing the newer snapshot, and trimming back from it, leaves the older one in place. -/
def Snapshot.Spares (retention : ℤ) (newer older : Snapshot) : Prop :=
  newer.ms ≠ older.ms ∧ newer.ms - older.ms ≤ 1000 * retention

namespace Store

def Uniform (feeds : List String) (store : Store) : Prop :=
  ∀ ms record, store.record? ms = some record → names record = "timestamp" :: feeds

section

variable {feeds : List String} {store : Store} {snapshot : Snapshot} {retention : ℤ}

theorem uniform_empty (feeds : List String) : Uniform feeds Store.empty := by
  intro ms record found
  simp [record?, empty] at found

theorem distinct_of_configured (configured : Feed.Configured feeds)
    (same : names snapshot.values = feeds) : (names snapshot.values).Nodup := by
  rw [same]
  exact configured.distinct

theorem no_timestamp_of_configured (configured : Feed.Configured feeds)
    (same : names snapshot.values = feeds) : "timestamp" ∉ names snapshot.values := by
  rw [same]
  exact configured.noTimestamp

theorem merged_record_of_uniform (uniform : store.Uniform feeds)
    (configured : Feed.Configured feeds) (same : names snapshot.values = feeds) :
    store.mergedRecord snapshot = snapshot.toRecord := by
  cases found : store.record? snapshot.ms with
  | none => exact merged_record_of_fresh found
  | some record =>
      have namesOld := uniform snapshot.ms record found
      have namesNew := Snapshot.names_to_record (distinct_of_configured configured same)
        (no_timestamp_of_configured configured same)
      rw [mergedRecord, found]
      apply merged_of_same_names _ snapshot.to_record_distinct
      rw [Option.getD_some, namesOld, namesNew, same]

theorem record_after_uniform_insert (uniform : store.Uniform feeds) (positive : 1 ≤ retention)
    (configured : Feed.Configured feeds) (same : names snapshot.values = feeds)
    (trimFailure : Option String) (ms : ℤ) :
    (afterInsert retention store ⟨snapshot, trimFailure⟩).record? ms =
      if ms = snapshot.ms then some snapshot.toRecord else store.record? ms := by
  rw [record_after_insert store positive, merged_record_of_uniform uniform configured same]
  rfl

theorem uniform_after_insert (uniform : store.Uniform feeds) (positive : 1 ≤ retention)
    (configured : Feed.Configured feeds) (same : names snapshot.values = feeds)
    (trimFailure : Option String) :
    (afterInsert retention store ⟨snapshot, trimFailure⟩).Uniform feeds := by
  intro ms record found
  rw [record_after_uniform_insert uniform positive configured same] at found
  split_ifs at found with here
  · cases found
    rw [Snapshot.names_to_record (distinct_of_configured configured same)
      (no_timestamp_of_configured configured same), same]
  · exact uniform ms record found

/-! ### Keeping one snapshot -/

structure Keeps (store : Store) (snapshot : Snapshot) : Prop where
  indexed : store.index.Holds snapshot.ms
  recorded : store.record? snapshot.ms = some snapshot.toRecord

theorem keeps_inserted (wellformed : store.Wellformed) (uniform : store.Uniform feeds)
    (positive : 1 ≤ retention) (configured : Feed.Configured feeds)
    (same : names snapshot.values = feeds) (trimFailure : Option String) :
    (afterInsert retention store ⟨snapshot, trimFailure⟩).Keeps snapshot where
  indexed := by
    apply (holds_after_insert wellformed retention _ _).mpr
    refine ⟨.inl rfl, ?_⟩
    -- the trim looks back from the snapshot itself
    rintro ⟨_, reached⟩
    simp only [Insert.ms] at reached
    omega
  recorded := by
    rw [record_after_uniform_insert uniform positive configured same, if_pos rfl]

theorem keeps_spared (wellformed : store.Wellformed) (positive : 1 ≤ retention)
    (keeps : store.Keeps snapshot) {newer : Snapshot} (spares : newer.Spares retention snapshot)
    (trimFailure : Option String) :
    (afterInsert retention store ⟨newer, trimFailure⟩).Keeps snapshot where
  indexed := by
    apply (holds_after_insert wellformed retention _ _).mpr
    refine ⟨.inr keeps.indexed, ?_⟩
    rintro ⟨_, reached⟩
    have near := spares.2
    simp only [Insert.ms] at reached
    omega
  recorded := by
    have notHere : ¬snapshot.ms = (Insert.mk newer trimFailure).ms := spares.1.symm
    rw [record_after_insert store positive, if_neg notHere]
    exact keeps.recorded

/-! ### Reading it back -/

/-- The record of a snapshot gives the snapshot back, its time to the millisecond. -/
theorem snapshot_at_of_keeps (configured : Feed.Configured feeds)
    (same : names snapshot.values = feeds) (keeps : store.Keeps snapshot) :
    store.snapshotAt? snapshot.ms = some snapshot.floored := by
  have decoded := Snapshot.of_record_to_record (distinct_of_configured configured same)
    (no_timestamp_of_configured configured same)
  rw [snapshotAt?, keeps.recorded, Option.bind_some, decoded]
  rfl

theorem entry_of_holds (wellformed : store.Wellformed) {ms : ℤ} (holds : store.index.Holds ms) :
    ⟨intText ms, ms⟩ ∈ store.index := by
  obtain ⟨entry, member, rfl⟩ := holds
  have named := wellformed.index.named entry member
  obtain ⟨name, score⟩ := entry
  dsimp only at named
  rw [← named]
  exact member

theorem load_of_keeps (wellformed : store.Wellformed) (configured : Feed.Configured feeds)
    (same : names snapshot.values = feeds) (keeps : store.Keeps snapshot) :
    store.load [intText snapshot.ms] = .ok [snapshot.floored] := by
  have member := entry_of_holds wellformed keeps.indexed
  have loaded := load_entries wellformed [⟨intText snapshot.ms, snapshot.ms⟩] fun entry inside => by
    rw [List.mem_singleton.mp inside]
    exact member
  have found := snapshot_at_of_keeps configured same keeps
  rw [Index.members, List.map_singleton] at loaded
  rw [loaded, List.filterMap_cons, found, List.filterMap_nil]

end

end Store
end PriceBoard
