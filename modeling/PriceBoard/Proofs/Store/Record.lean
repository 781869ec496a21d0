import PriceBoard.Store.Basic
import PriceBoard.Proofs.Calendar.Instant
import PriceBoard.Proofs.Decimal.RoundTrip
import PriceBoard.Proofs.Json.Members

/-!
# Stored records read back

A record that holds its millisecond and readable texts decodes to the snapshot of that millisecond.
Merging a snapshot into any such record leaves one.
-/
namespace PriceBoard

open PriceBoard.Decimal PriceBoard.DateTime

/-! ### Milliseconds -/

theorem decimal_length_le {value places : ℕ} (positive : 0 < places) (small : value < 10 ^ places) :
    decimalLength value ≤ places := by
  rcases Nat.eq_zero_or_pos value with rfl | nonzero
  · rw [decimalLength, if_pos (by decide)]
    exact positive
  · obtain ⟨low, _, atLeast⟩ := decimal_length_bounds nonzero
    have strict := (Nat.pow_lt_pow_iff_right (by decide : 1 < 10)).mp (low.trans_lt small)
    omega

theorem read_ms {ms : ℤ} (inRange : MsInRange ms) :
    readInteger (intText ms).toList = .ok ms := by
  have small : ms.natAbs < 10 ^ 15 := by
    unfold MsInRange instantOfMs epochMicros dayLimit microsPerDay at inRange
    omega
  have short := decimal_length_le (by decide) small
  rw [intText, String.toList_ofList]
  exact read_integer_int_digits (short.trans (by decide))

/-! ### Decoding -/

structure Stored (ms : ℤ) (record : Record) : Prop where
  timestamp : record.lookup "timestamp" = some (intText ms)
  readable : ∀ entry ∈ record, entry.1 ≠ "timestamp" → (readFloat? entry.2.toList).isSome = true

namespace Snapshot

def readEntry (entry : String × String) : String × Float :=
  (entry.1, (readFloat? entry.2.toList).getD 0)

def valuesOf (record : Record) : List (String × Float) :=
  (record.filter (·.1 ≠ "timestamp")).map readEntry

theorem read_values_of_readable {record : Record}
    (readable : ∀ entry ∈ record, (readFloat? entry.2.toList).isSome = true) :
    readValues record = .ok (record.map readEntry) := by
  induction record with
  | nil => rfl
  | cons entry rest induction =>
      obtain ⟨value, read⟩ := Option.isSome_iff_exists.mp (readable entry List.mem_cons_self)
      have others := induction fun other member => readable other (List.mem_cons_of_mem _ member)
      simp only [readValues, read, others, List.map_cons, readEntry, Option.getD_some]
      rfl

theorem of_record_stored {ms : ℤ} {record : Record} (inRange : MsInRange ms)
    (stored : Stored ms record) :
    ∃ wall : WallTime, (wall.micros : ℤ) = instantOfMs ms ∧
      ofRecord record = .ok ⟨wall, valuesOf record⟩ := by
  obtain ⟨wall, moment, micros⟩ := of_epoch_ms_in_range inRange
  refine ⟨wall, micros, ?_⟩
  have values := @read_values_of_readable (record.filter (·.1 ≠ "timestamp")) fun entry member => by
    obtain ⟨inside, feed⟩ := List.mem_filter.mp member
    exact stored.readable entry inside (of_decide_eq_true feed)
  rw [ofRecord, stored.timestamp]
  simp only [read_ms inRange, moment, values]
  rfl

/-! ### Encoding -/

def FiniteValues (snapshot : Snapshot) : Prop := ∀ entry ∈ snapshot.values, entry.2.isFinite = true

def fields (snapshot : Snapshot) : Record :=
  snapshot.values.map fun (feed, value) => (feed, floatText plainStyle value)

theorem names_fields (snapshot : Snapshot) : names snapshot.fields = names snapshot.values := by
  rw [names, fields, List.map_map]
  rfl

theorem read_fields (snapshot : Snapshot) : snapshot.fields.map readEntry = snapshot.values := by
  have each : ∀ entry ∈ snapshot.values,
      (readEntry ∘ fun (feed, value) => (feed, floatText plainStyle value)) entry = entry := by
    intro entry _
    simp only [Function.comp_apply, readEntry, read_float_text, Option.getD_some]
  rw [fields, List.map_map, List.map_congr_left each, List.map_id']

theorem to_record_eq {snapshot : Snapshot} (noTimestamp : "timestamp" ∉ names snapshot.values) :
    snapshot.toRecord = ("timestamp", intText snapshot.ms) :: merged [] snapshot.fields := by
  change merged [("timestamp", intText snapshot.ms)] snapshot.fields = _
  apply merged_cons_of_untouched
  rwa [names_fields]

theorem stored_merge {snapshot : Snapshot} {record : Record}
    (noTimestamp : "timestamp" ∉ names snapshot.values)
    (readable : ∀ entry ∈ record, entry.1 ≠ "timestamp" →
      (readFloat? entry.2.toList).isSome = true) :
    Stored snapshot.ms (Store.mergeInto record snapshot.toRecord) := by
  have fieldOf {entry : String × String} (member : entry ∈ merged [] snapshot.fields) :
      entry ∈ snapshot.fields := (mem_merged member).resolve_right List.not_mem_nil
  constructor
  · have untouched : "timestamp" ∉ names (merged [] snapshot.fields) := by
      intro member
      obtain ⟨entry, inside, same⟩ := List.mem_map.mp member
      apply noTimestamp
      rw [← names_fields, ← same]
      exact List.mem_map_of_mem (fieldOf inside)
    rw [to_record_eq noTimestamp]
    change (merged (setMember "timestamp" (intText snapshot.ms) record) _).lookup "timestamp" = _
    rw [lookup_merged_of_untouched untouched, lookup_set_member, if_pos rfl]
  · intro entry member feed
    rcases mem_merged member with new | old
    · rw [to_record_eq noTimestamp] at new
      rcases List.mem_cons.mp new with rfl | field
      · exact absurd rfl feed
      · obtain ⟨source, _, rfl⟩ := List.mem_map.mp (fieldOf field)
        simp only [read_float_text, Option.isSome_some]
    · exact readable entry old feed

end Snapshot
end PriceBoard
