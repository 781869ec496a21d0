import PriceBoard.Proofs.Decimal.Integer
import PriceBoard.Proofs.Store.Record

/-!
# A snapshot's record decodes to the snapshot

The record of a snapshot gives back its values, and its time to the millisecond. A feed that is named like
the time leaves its own text in the time's place, and no text of a double is a whole number.
-/
namespace PriceBoard.Snapshot

open PriceBoard.Decimal PriceBoard.DateTime

def floored (snapshot : Snapshot) : Snapshot := { snapshot with wall := snapshot.wall.floorMs }

variable {snapshot : Snapshot}

/-! ### The record -/

theorem to_record_distinct (snapshot : Snapshot) : (names snapshot.toRecord).Nodup :=
  @names_merged_nodup _ [("timestamp", intText snapshot.ms)] _ (List.nodup_singleton _)

theorem merge_into_nothing (snapshot : Snapshot) :
    Store.mergeInto [] snapshot.toRecord = snapshot.toRecord :=
  @merged_of_new _ [] snapshot.toRecord snapshot.to_record_distinct

section

variable (distinct : (names snapshot.values).Nodup) (noTimestamp : "timestamp" ∉ names snapshot.values)

include distinct noTimestamp

theorem to_record_of_distinct :
    snapshot.toRecord = ("timestamp", intText snapshot.ms) :: snapshot.fields := by
  rw [to_record_eq noTimestamp]
  have fields : merged [] snapshot.fields = [] ++ snapshot.fields := by
    apply merged_of_new
    rw [List.nil_append, names_fields]
    exact distinct
  rw [fields, List.nil_append]

theorem names_to_record : names snapshot.toRecord = "timestamp" :: names snapshot.values := by
  rw [to_record_of_distinct distinct noTimestamp, names, List.map_cons, ← names_fields]
  rfl

theorem values_of_to_record : valuesOf snapshot.toRecord = snapshot.values := by
  have others : snapshot.fields.filter (·.1 ≠ "timestamp") = snapshot.fields := by
    apply List.filter_eq_self.mpr
    intro entry member
    apply decide_eq_true
    intro same
    apply noTimestamp
    rw [← names_fields, ← same]
    exact List.mem_map_of_mem member
  rw [valuesOf, to_record_of_distinct distinct noTimestamp, List.filter_cons, if_neg (by simp),
    others, read_fields]

end

/-! ### To the millisecond -/

theorem floored_ms (snapshot : Snapshot) : snapshot.floored.ms = snapshot.ms := by
  have floor := utc_floor_ms snapshot.wall
  rw [ms, timestamp, epochMs, utc_instant, floored, floor, instantOfMs]
  change _ = (DateTime.mk snapshot.wall (some Offset.utc)).epochMs
  omega

theorem floored_to_record (snapshot : Snapshot) : snapshot.floored.toRecord = snapshot.toRecord := by
  rw [toRecord, floored_ms]
  rfl

/-! ### Decoding -/

theorem of_record_to_record (distinct : (names snapshot.values).Nodup)
    (noTimestamp : "timestamp" ∉ names snapshot.values) :
    ofRecord snapshot.toRecord = .ok snapshot.floored := by
  have stored := @stored_merge snapshot [] noTimestamp fun _ member => nomatch member
  rw [merge_into_nothing] at stored
  obtain ⟨wall, micros, decoded⟩ := of_record_stored (utc_epoch_ms_in_range snapshot.wall) stored
  have sameWall : wall = snapshot.wall.floorMs :=
    WallTime.eq_of_micros (Int.ofNat.inj (micros.trans (utc_floor_ms snapshot.wall).symm))
  rw [decoded, values_of_to_record distinct noTimestamp, sameWall]
  rfl

theorem of_record_of_feed_timestamp (named : "timestamp" ∈ names snapshot.values) :
    ofRecord snapshot.toRecord = .error .badTimestamp := by
  rw [← names_fields] at named
  obtain ⟨text, member, found⟩ :=
    @lookup_merged_of_given _ _ [("timestamp", intText snapshot.ms)] _ named
  obtain ⟨entry, _, same⟩ := List.mem_map.mp member
  have textIs : floatText plainStyle entry.2 = text := congrArg Prod.snd same
  change snapshot.toRecord.lookup "timestamp" = some text at found
  rw [ofRecord, found, ← textIs]
  simp only [read_integer_float_text]

end PriceBoard.Snapshot
