import PriceBoard.Proofs.Store.Decoding
import PriceBoard.Proofs.Store.Reachable

/-!
# What a run of inserts leaves in the store

A trim looks back from the snapshot that is inserted, not from the clock, and it may fail. So a
millisecond is in the index exactly if no trim that succeeded has reached it since its last insert. Its
record stays, and holds the feeds of that insert.
-/
namespace PriceBoard

open PriceBoard.Decimal PriceBoard.DateTime

/-! ### Runs of inserts -/

structure Insert where
  snapshot : Snapshot
  /-- The message its trim fails with, if it fails. -/
  trimFailure : Option String

namespace Insert

def ms (insert : Insert) : ℤ := insert.snapshot.ms

/-- The insert's trim drops the millisecond from the index. -/
def Reaches (retention : ℤ) (insert : Insert) (ms : ℤ) : Prop :=
  insert.trimFailure = none ∧ ms < insert.ms - 1000 * retention

/-- The last of the inserts at a millisecond, and the ones after it. -/
def LastAt (inserts : List Insert) (ms : ℤ) (last : Insert) (after : List Insert) : Prop :=
  (∃ before, inserts = before ++ last :: after) ∧ last.ms = ms ∧ ∀ later ∈ after, later.ms ≠ ms

/-- The millisecond has an insert, and no trim from its last one on reaches it. -/
def Survives (retention : ℤ) (inserts : List Insert) (ms : ℤ) : Prop :=
  ∃ last after, LastAt inserts ms last after ∧
    ∀ insert ∈ last :: after, ¬insert.Reaches retention ms

/-- Feeds have one value each, none is named like the time, and the snapshots of one millisecond have the
same feeds. -/
structure Regular (inserts : List Insert) : Prop where
  distinct : ∀ insert ∈ inserts, (names insert.snapshot.values).Nodup
  noTimestamp : ∀ insert ∈ inserts, "timestamp" ∉ names insert.snapshot.values
  sameFeeds : ∀ first ∈ inserts, ∀ second ∈ inserts, first.ms = second.ms →
    ∀ feed ∈ names first.snapshot.values, feed ∈ names second.snapshot.values

variable {retention ms : ℤ} {inserts after : List Insert} {insert last : Insert}

theorem last_at_mem (isLast : LastAt inserts ms last after) : last ∈ inserts := by
  obtain ⟨⟨before, split⟩, _⟩ := isLast
  rw [split]
  exact List.mem_append_right _ List.mem_cons_self

theorem last_at_snoc_same (inserts : List Insert) (insert : Insert) :
    LastAt (inserts ++ [insert]) insert.ms insert [] :=
  ⟨⟨inserts, rfl⟩, rfl, fun _ member => absurd member List.not_mem_nil⟩

theorem last_at_snoc_other (isLast : LastAt inserts ms last after) (other : insert.ms ≠ ms) :
    LastAt (inserts ++ [insert]) ms last (after ++ [insert]) := by
  obtain ⟨⟨before, split⟩, atMs, none⟩ := isLast
  refine ⟨⟨before, ?_⟩, atMs, ?_⟩
  · rw [split, List.append_assoc, List.cons_append]
  · intro later member
    rcases List.mem_append.mp member with inside | new
    · exact none later inside
    · rw [List.mem_singleton.mp new]
      exact other

/-- The last insert at a millisecond is the newest insert or was the last one before it. -/
theorem last_at_snoc (isLast : LastAt (inserts ++ [insert]) ms last after) :
    (insert.ms = ms ∧ last = insert ∧ after = []) ∨
      (insert.ms ≠ ms ∧ ∃ earlier, after = earlier ++ [insert] ∧ LastAt inserts ms last earlier) := by
  obtain ⟨⟨before, split⟩, atMs, none⟩ := isLast
  rcases Store.newest_or_before split with ⟨_, rfl, rfl⟩ | ⟨earlier, rfl, front⟩
  · exact .inl ⟨atMs, rfl, rfl⟩
  · refine .inr ⟨none insert (List.mem_append_right _ List.mem_cons_self), earlier, rfl,
      ⟨before, front⟩, atMs, fun later member => none later (List.mem_append_left _ member)⟩

theorem exists_last (found : ∃ insert ∈ inserts, insert.ms = ms) :
    ∃ last after, LastAt inserts ms last after := by
  induction inserts using List.reverseRecOn with
  | nil =>
      obtain ⟨_, member, _⟩ := found
      exact absurd member List.not_mem_nil
  | append_singleton inserts insert induction =>
      by_cases same : insert.ms = ms
      · rw [← same]
        exact ⟨insert, [], last_at_snoc_same inserts insert⟩
      · obtain ⟨other, member, atMs⟩ := found
        rcases List.mem_append.mp member with inside | new
        · obtain ⟨last, after, isLast⟩ := induction ⟨other, inside, atMs⟩
          exact ⟨last, after ++ [insert], last_at_snoc_other isLast same⟩
        · rw [List.mem_singleton.mp new] at atMs
          exact absurd atMs same

/-- One more insert brings its own millisecond, and its trim takes those it reaches. -/
theorem survives_snoc :
    Survives retention (inserts ++ [insert]) ms ↔
      (ms = insert.ms ∨ Survives retention inserts ms) ∧ ¬insert.Reaches retention ms := by
  constructor
  · rintro ⟨last, after, isLast, spared⟩
    rcases last_at_snoc isLast with ⟨same, rfl, rfl⟩ | ⟨_, earlier, rfl, wasLast⟩
    · exact ⟨.inl same.symm, spared last List.mem_cons_self⟩
    · refine ⟨.inr ⟨last, earlier, wasLast, ?_⟩, ?_⟩
      · intro other member
        apply spared
        rw [← List.cons_append]
        exact List.mem_append_left _ member
      · apply spared
        rw [← List.cons_append]
        exact List.mem_append_right _ List.mem_cons_self
  · rintro ⟨present, spared⟩
    by_cases same : insert.ms = ms
    · refine ⟨insert, [], same ▸ last_at_snoc_same inserts insert, ?_⟩
      intro other member
      rw [List.mem_singleton.mp member]
      exact spared
    · obtain ⟨last, after, isLast, safe⟩ := present.resolve_left (Ne.symm same)
      refine ⟨last, after ++ [insert], last_at_snoc_other isLast same, ?_⟩
      intro other member
      rw [← List.cons_append] at member
      rcases List.mem_append.mp member with inside | new
      · exact safe other inside
      · rw [List.mem_singleton.mp new]
        exact spared

theorem regular_of_snoc (regular : Regular (inserts ++ [insert])) : Regular inserts where
  distinct other member := regular.distinct other (List.mem_append_left _ member)
  noTimestamp other member := regular.noTimestamp other (List.mem_append_left _ member)
  sameFeeds first firstMember second secondMember :=
    regular.sameFeeds first (List.mem_append_left _ firstMember) second
      (List.mem_append_left _ secondMember)

end Insert

/-! ### The store after a run -/

namespace Store

def afterInsert (retention : ℤ) (store : Store) (insert : Insert) : Store :=
  match insert.trimFailure with
  | some _ => store.write retention insert.snapshot
  | none => (store.write retention insert.snapshot).trim retention insert.ms

def afterInserts (retention : ℤ) (inserts : List Insert) : Store :=
  inserts.foldl (afterInsert retention) Store.empty

/-- A trim leaves the records. -/
theorem record_after_trim (retention : ℤ) (store : Store) (insert : Insert) (ms : ℤ) :
    (afterInsert retention store insert).record? ms =
      (store.write retention insert.snapshot).record? ms := by
  unfold afterInsert
  cases insert.trimFailure <;> rfl

theorem record_after_insert (store : Store) {retention : ℤ} (positive : 1 ≤ retention)
    (insert : Insert) (ms : ℤ) :
    (afterInsert retention store insert).record? ms =
      if ms = insert.ms then some (store.mergedRecord insert.snapshot) else store.record? ms := by
  rw [record_after_trim]
  exact record_write store (by omega) insert.snapshot ms

theorem after_insert_wellformed {store : Store} (wellformed : store.Wellformed) (retention : ℤ)
    {insert : Insert} (noTimestamp : "timestamp" ∉ names insert.snapshot.values) :
    (afterInsert retention store insert).Wellformed := by
  have written := write_wellformed wellformed retention noTimestamp
  unfold afterInsert
  split
  · exact written
  · exact trim_wellformed written retention insert.ms

theorem holds_after_insert {store : Store} (wellformed : store.Wellformed) (retention : ℤ)
    (insert : Insert) (ms : ℤ) :
    (afterInsert retention store insert).index.Holds ms ↔
      (ms = insert.ms ∨ store.index.Holds ms) ∧ ¬insert.Reaches retention ms := by
  have written : (store.write retention insert.snapshot).index.Holds ms ↔
      ms = insert.ms ∨ store.index.Holds ms := by
    rw [index_write]
    exact Index.holds_add wellformed.index
  unfold afterInsert Insert.Reaches
  cases insert.trimFailure with
  | some message =>
      rw [written]
      simp
  | none =>
      change Index.Holds (Index.dropBelow _ (insert.ms - retention * 1000)) ms ↔ _
      rw [Index.holds_drop_below, written, and_comm]
      apply and_congr_right
      intro _
      simp only [true_and, not_lt]
      omega

structure Kept (retention : ℤ) (inserts : List Insert) (store : Store) : Prop where
  wellformed : store.Wellformed
  indexed : ∀ ms, store.index.Holds ms ↔ Insert.Survives retention inserts ms
  absent : ∀ ms, (∀ insert ∈ inserts, insert.ms ≠ ms) → store.record? ms = none
  recorded : ∀ ms last after, Insert.LastAt inserts ms last after →
    ∃ record, store.record? ms = some record ∧ record.Perm last.snapshot.toRecord

/-- Where no record is, a write leaves that of its snapshot. -/
theorem merged_record_of_fresh {store : Store} {snapshot : Snapshot}
    (fresh : store.record? snapshot.ms = none) : store.mergedRecord snapshot = snapshot.toRecord := by
  rw [mergedRecord, fresh]
  exact snapshot.merge_into_nothing

/-- A write leaves the record of its snapshot, whatever earlier snapshot of the millisecond it is merged
into. -/
theorem merged_record_perm {retention : ℤ} {inserts : List Insert} {store : Store}
    (kept : Kept retention inserts store) {insert : Insert}
    (regular : Insert.Regular (inserts ++ [insert])) :
    (store.mergedRecord insert.snapshot).Perm insert.snapshot.toRecord := by
  have newest : insert ∈ inserts ++ [insert] := List.mem_append_right _ List.mem_cons_self
  have distinct := regular.distinct insert newest
  have noTimestamp := regular.noTimestamp insert newest
  have namesNew := Snapshot.names_to_record distinct noTimestamp
  have newDistinct := insert.snapshot.to_record_distinct
  by_cases known : ∃ earlier ∈ inserts, earlier.ms = insert.ms
  · obtain ⟨last, after, isLast⟩ := Insert.exists_last known
    obtain ⟨record, found, perm⟩ := kept.recorded _ _ _ isLast
    have lastMember : last ∈ inserts ++ [insert] :=
      List.mem_append_left _ (Insert.last_at_mem isLast)
    have lastDistinct := regular.distinct last lastMember
    have lastNoTimestamp := regular.noTimestamp last lastMember
    have namesOld : (names record).Perm ("timestamp" :: names last.snapshot.values) := by
      rw [← Snapshot.names_to_record lastDistinct lastNoTimestamp]
      exact perm.map _
    have oldDistinct : (names record).Nodup :=
      (perm.map _).nodup_iff.mpr last.snapshot.to_record_distinct
    have merges : store.mergedRecord insert.snapshot = merged record insert.snapshot.toRecord := by
      unfold Insert.ms at found
      rw [mergedRecord, found]
      rfl
    rw [merges]
    apply merged_perm_of_covered oldDistinct newDistinct
    intro name member
    rw [namesNew]
    rcases List.mem_cons.mp (namesOld.mem_iff.mp member) with rfl | feed
    · exact List.mem_cons_self
    · exact List.mem_cons_of_mem _
        (regular.sameFeeds last lastMember insert newest isLast.2.1 name feed)
  · have gone : store.record? insert.snapshot.ms = none := by
      apply kept.absent
      intro earlier member same
      exact known ⟨earlier, member, same⟩
    rw [merged_record_of_fresh gone]

theorem kept_step {retention : ℤ} (positive : 1 ≤ retention) {inserts : List Insert} {store : Store}
    (kept : Kept retention inserts store) {insert : Insert}
    (regular : Insert.Regular (inserts ++ [insert])) :
    Kept retention (inserts ++ [insert]) (afterInsert retention store insert) where
  wellformed := after_insert_wellformed kept.wellformed retention
    (regular.noTimestamp insert (List.mem_append_right _ List.mem_cons_self))
  indexed ms := by
    rw [holds_after_insert kept.wellformed, kept.indexed, Insert.survives_snoc]
  absent ms none := by
    have notNew : ¬ms = insert.ms := by
      intro same
      exact none insert (List.mem_append_right _ List.mem_cons_self) same.symm
    rw [record_after_insert store positive, if_neg notNew]
    apply kept.absent
    intro other member
    exact none other (List.mem_append_left _ member)
  recorded ms last after isLast := by
    rw [record_after_insert store positive]
    rcases Insert.last_at_snoc isLast with ⟨rfl, rfl, _⟩ | ⟨other, earlier, _, wasLast⟩
    · rw [if_pos rfl]
      exact ⟨_, rfl, merged_record_perm kept regular⟩
    · rw [if_neg (Ne.symm other)]
      exact kept.recorded ms last earlier wasLast

theorem kept_run {retention : ℤ} (positive : 1 ≤ retention) {inserts : List Insert}
    (regular : Insert.Regular inserts) : Kept retention inserts (afterInserts retention inserts) := by
  induction inserts using List.reverseRecOn with
  | nil =>
      constructor
      · exact empty_wellformed
      · intro ms
        constructor
        · rintro ⟨_, member, _⟩
          exact absurd member List.not_mem_nil
        · rintro ⟨last, _, isLast, _⟩
          exact absurd (Insert.last_at_mem isLast) List.not_mem_nil
      · intro ms _
        rfl
      · intro ms last after isLast
        exact absurd (Insert.last_at_mem isLast) List.not_mem_nil
  | append_singleton inserts insert induction =>
      rw [afterInserts, List.foldl_append]
      exact kept_step positive (induction (Insert.regular_of_snoc regular)) regular

end Store
end PriceBoard
