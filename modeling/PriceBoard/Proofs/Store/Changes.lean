import PriceBoard.Proofs.Store.Decoding
import PriceBoard.Proofs.Store.Reachable

/-!
# What changes leave of each feed

A record holds of a feed what the last change that touched it there gave it. A write touches the feeds of
its own snapshot, and a deletion touches all. What earlier snapshots of a millisecond gave to other feeds is
left.
-/
namespace PriceBoard

open PriceBoard.Decimal PriceBoard.DateTime

/-! ### Values under a millisecond -/

namespace Snapshot

theorem lookup_read_entries (record : Record) (feed : String) :
    (record.map readEntry).lookup feed =
      (record.lookup feed).map fun text => (readFloat? text.toList).getD 0 := by
  induction record with
  | nil => rfl
  | cons entry rest induction =>
      rw [List.map_cons, readEntry, List.lookup_cons, List.lookup_cons, induction]
      cases feed == entry.1 <;> rfl

theorem lookup_values_of (record : Record) (feed : String) :
    (valuesOf record).lookup feed = if feed = "timestamp" then none
      else (record.lookup feed).map fun text => (readFloat? text.toList).getD 0 := by
  rw [valuesOf, lookup_read_entries, Store.lookup_filter_ne]
  split_ifs <;> rfl

theorem lookup_values_of_merged {fields : Record} (distinct : (names fields).Nodup) (record : Record)
    (feed : String) : (valuesOf (Store.mergeInto record fields)).lookup feed =
      ((valuesOf fields).lookup feed).or ((valuesOf record).lookup feed) := by
  have merges : (Store.mergeInto record fields).lookup feed =
      (fields.lookup feed).or (record.lookup feed) := lookup_merged distinct
  rw [lookup_values_of, lookup_values_of, lookup_values_of, merges]
  split_ifs
  · rfl
  · exact Option.map_or

theorem names_values_of (record : Record) :
    names (valuesOf record) = names (record.filter (·.1 ≠ "timestamp")) := by
  rw [names, valuesOf, List.map_map]
  rfl

end Snapshot

namespace Store

def value? (store : Store) (ms : ℤ) (feed : String) : Option Float :=
  (store.record? ms).bind fun record => (Snapshot.valuesOf record).lookup feed

variable {store : Store} {snapshot : Snapshot} {retention ms : ℤ} {feed : String} {value : Float}

theorem value_of_record {other : Store} (same : store.record? ms = other.record? ms) :
    store.value? ms feed = other.value? ms feed := by
  rw [value?, same, value?]

/-- A snapshot that is merged into the record of its millisecond gives its feeds their values and leaves
the others. -/
theorem value_merged (distinct : (names snapshot.values).Nodup)
    (noTimestamp : "timestamp" ∉ names snapshot.values) (store : Store) (feed : String) :
    (Snapshot.valuesOf (store.mergedRecord snapshot)).lookup feed =
      (snapshot.value? feed).or (store.value? snapshot.ms feed) := by
  rw [mergedRecord, Snapshot.lookup_values_of_merged snapshot.to_record_distinct,
    Snapshot.values_of_to_record distinct noTimestamp, value?]
  cases store.record? snapshot.ms <;> rfl

theorem value_write (distinct : (names snapshot.values).Nodup)
    (noTimestamp : "timestamp" ∉ names snapshot.values) (kept : 0 < retention) :
    (store.write retention snapshot).value? snapshot.ms feed =
      (snapshot.value? feed).or (store.value? snapshot.ms feed) := by
  rw [value?, record_write store kept, if_pos rfl]
  exact value_merged distinct noTimestamp store feed

theorem value_write_dropped (dropped : retention ≤ 0) :
    (store.write retention snapshot).value? snapshot.ms feed = none := by
  rw [value?, record_write_dropped store dropped, if_pos rfl]
  rfl

theorem value_write_other (other : snapshot.ms ≠ ms) :
    (store.write retention snapshot).value? ms feed = store.value? ms feed := by
  apply value_of_record
  by_cases kept : 0 < retention
  · rw [record_write store kept, if_neg other.symm]
  · rw [record_write_dropped store (not_lt.mp kept), if_neg other.symm]

/-! ### Changes -/

inductive Change where
  | write (retention : ℤ) (snapshot : Snapshot)
  | trim (retention newest : ℤ)
  | dropRecord (ms : ℤ)

namespace Change

def apply (store : Store) : Change → Store
  | .write retention snapshot => store.write retention snapshot
  | .trim retention newest => store.trim retention newest
  | .dropRecord ms => store.dropRecord ms

/-- A snapshot that is written has one value for each of its feeds, and none is named like the time. -/
def Regular : Change → Prop
  | .write _ snapshot =>
    (names snapshot.values).Nodup ∧ "timestamp" ∉ names snapshot.values
  | .trim _ _ => True
  | .dropRecord _ => True

def Touches (ms : ℤ) (feed : String) : Change → Prop
  | .write retention snapshot =>
    snapshot.ms = ms ∧ (retention ≤ 0 ∨ feed ∈ names snapshot.values)
  | .trim _ _ => False
  | .dropRecord other => other = ms

def Gives (ms : ℤ) (feed : String) (value : Float) : Change → Prop
  | .write retention snapshot =>
    snapshot.ms = ms ∧ 0 < retention ∧ snapshot.value? feed = some value
  | .trim _ _ => False
  | .dropRecord _ => False

/-- Of the changes that touch a feed under a millisecond, the last gives it the value. -/
def Left (changes : List Change) (ms : ℤ) (feed : String) (value : Float) : Prop :=
  ∃ earlier last later, changes = earlier ++ last :: later ∧ last.Gives ms feed value ∧
    ∀ change ∈ later, ¬change.Touches ms feed

variable {change : Change} {changes : List Change}

theorem left_snoc : Left (changes ++ [change]) ms feed value ↔
    change.Gives ms feed value ∨ ¬change.Touches ms feed ∧ Left changes ms feed value := by
  constructor
  · rintro ⟨earlier, last, later, split, gives, untouched⟩
    rcases newest_or_before split with ⟨_, rfl, rfl⟩ | ⟨between, rfl, front⟩
    · exact .inl gives
    · exact .inr ⟨untouched change (List.mem_append_right _ List.mem_cons_self), earlier, last, between,
        front, gives, fun other member => untouched other (List.mem_append_left _ member)⟩
  · rintro (gives | ⟨untouched, earlier, last, later, rfl, gives, others⟩)
    · exact ⟨changes, change, [], rfl, gives, nofun⟩
    · refine ⟨earlier, last, later ++ [change], by simp, gives, fun other member => ?_⟩
      rcases List.mem_append.mp member with inside | new
      · exact others other inside
      · rw [List.mem_singleton.mp new]
        exact untouched

theorem not_left_nil : ¬Left [] ms feed value := by
  rintro ⟨earlier, last, later, split, _⟩
  exact absurd split (by simp)

/-- One change gives a feed a value, or leaves what it had unless it touches the feed. -/
theorem value_apply (regular : change.Regular) : (change.apply store).value? ms feed = some value ↔
    change.Gives ms feed value ∨ ¬change.Touches ms feed ∧ store.value? ms feed = some value := by
  cases change with
  | write retention snapshot =>
      obtain ⟨distinct, noTimestamp⟩ := regular
      by_cases same : snapshot.ms = ms
      · subst same
        by_cases kept : 0 < retention
        · have named : feed ∈ names snapshot.values ↔ (snapshot.value? feed).isSome = true :=
            lookup_is_some_iff.symm
          rw [apply, value_write distinct noTimestamp kept]
          simp only [Gives, Touches, named, kept, not_le.mpr kept]
          cases snapshot.value? feed <;> simp
        · rw [apply, value_write_dropped (not_lt.mp kept)]
          simp [Gives, Touches, kept, not_lt.mp kept]
      · rw [apply, value_write_other same]
        simp [Gives, Touches, same]
  | trim retention newest =>
      have same : (store.trim retention newest).value? ms feed = store.value? ms feed := rfl
      rw [apply, same]
      simp [Gives, Touches]
  | dropRecord other =>
      rw [apply, value?, record_drop_record]
      by_cases same : ms = other
      · simp [Gives, Touches, same]
      · simp [Gives, Touches, same, Ne.symm same, value?]

end Change

/-! ### Runs of changes -/

def afterChanges (changes : List Change) : Store := changes.foldl Change.apply Store.empty

theorem after_changes_snoc (changes : List Change) (change : Change) :
    afterChanges (changes ++ [change]) = change.apply (afterChanges changes) := by
  rw [afterChanges, List.foldl_append]
  rfl

theorem after_changes_reachable {changes : List Change}
    (regular : ∀ change ∈ changes, change.Regular) : (afterChanges changes).Reachable := by
  induction changes using List.reverseRecOn with
  | nil => exact .empty
  | append_singleton changes change induction =>
      have before := induction fun other member => regular other (List.mem_append_left _ member)
      have last := regular change (List.mem_append_right _ List.mem_cons_self)
      rw [after_changes_snoc]
      cases change with
      | write retention snapshot => exact .write retention snapshot last.2 before
      | trim retention newest => exact .trim retention newest before
      | dropRecord ms => exact .dropRecord ms before

/-- Each feed has the value that the last change to touch it gave it. -/
theorem value_after_changes {changes : List Change}
    (regular : ∀ change ∈ changes, change.Regular) :
    (afterChanges changes).value? ms feed = some value ↔ Change.Left changes ms feed value := by
  induction changes using List.reverseRecOn with
  | nil => exact ⟨nofun, fun left => absurd left Change.not_left_nil⟩
  | append_singleton changes change induction =>
      have before := induction fun other member => regular other (List.mem_append_left _ member)
      have last := regular change (List.mem_append_right _ List.mem_cons_self)
      rw [after_changes_snoc, Change.value_apply last, before, Change.left_snoc]

/-! ### Names -/

/-- Every record names a feed once: only writes change records, and they merge by name. -/
theorem reachable_distinct (reachable : store.Reachable) {record : Record}
    (found : store.record? ms = some record) : (names record).Nodup := by
  induction reachable generalizing ms record with
  | empty => exact nomatch found
  | @write before retention snapshot _ _ induction =>
      by_cases kept : 0 < retention
      · rw [record_write before kept] at found
        split_ifs at found with same
        · cases found
          apply names_merged_nodup
          cases earlier : before.record? snapshot.ms with
          | none => exact List.nodup_nil
          | some record => exact induction earlier
        · exact induction found
      · rw [record_write_dropped before (not_lt.mp kept)] at found
        split_ifs at found
        exact induction found
  | trim retention newest _ induction => exact induction found
  | dropRecord other _ induction =>
      rw [record_drop_record] at found
      split_ifs at found
      exact induction found

theorem merged_record_distinct (reachable : store.Reachable)
    (noTimestamp : "timestamp" ∉ names snapshot.values) :
    (names (Snapshot.valuesOf (store.mergedRecord snapshot))).Nodup := by
  have written := Reachable.write 1 snapshot noTimestamp reachable
  have stored : (store.write 1 snapshot).record? snapshot.ms = some (store.mergedRecord snapshot) := by
    rw [record_write store (by decide), if_pos rfl]
  rw [Snapshot.names_values_of]
  exact (reachable_distinct written stored).sublist (List.filter_sublist.map _)

end Store

/-- Where a snapshot has the values of another and some that were left, they are the same exactly if
nothing was left that the other does not name. -/
theorem Snapshot.perm_iff_nothing_left {snapshot loaded : Snapshot}
    (loadedDistinct : (names loaded.values).Nodup) (distinct : (names snapshot.values).Nodup)
    {left : String → Option Float}
    (merges : ∀ feed, loaded.value? feed = (snapshot.value? feed).or (left feed)) :
    loaded.values.Perm snapshot.values ↔ ∀ feed ∉ names snapshot.values, left feed = none := by
  rw [perm_iff_lookup loadedDistinct distinct]
  apply forall_congr'
  intro feed
  have named : feed ∈ names snapshot.values ↔ (snapshot.value? feed).isSome = true :=
    lookup_is_some_iff.symm
  change loaded.value? feed = snapshot.value? feed ↔ _
  rw [merges, named]
  cases snapshot.value? feed <;> simp

end PriceBoard
