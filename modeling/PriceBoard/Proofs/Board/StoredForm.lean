import PriceBoard.Proofs.Board.Steps

/-!
# The stored form of a snapshot

A snapshot's record decodes exactly if no feed is named like the time. It gives the snapshot to the
millisecond, and that encodes to the same record. So does what is decoded from any record that an insert
leaves under a millisecond that had none.
-/
namespace PriceBoard

namespace Board

variable {Time : Type} [Timeline Time] {board : Board Time} {snapshot : Snapshot}

theorem record_of_insert (writes : (board.conditions .write).failure = none) (ms : ℤ) :
    (board.insert snapshot).1.store.record? ms =
      (board.store.write board.settings.retention snapshot).record? ms := by
  rw [(insert_written writes).1.store]
  exact Store.record_after_trim _ _ _ _

/-- The write of an insert that succeeds has not failed. -/
theorem insert_writes (written : (board.insert snapshot).2 = .ok ()) :
    (board.conditions .write).failure = none := by
  cases failure : (board.conditions .write).failure with
  | none => rfl
  | some message =>
      rw [(insert_refused failure).2] at written
      exact nomatch written

section

variable (fresh : board.store.record? snapshot.ms = none)

include fresh

theorem insert_fresh (written : (board.insert snapshot).2 = .ok ())
    (positive : 1 ≤ board.settings.retention) :
    (board.insert snapshot).1.store.record? snapshot.ms = some snapshot.toRecord := by
  rw [record_of_insert (insert_writes written), Store.record_write board.store (by omega), if_pos rfl,
    Store.merged_record_of_fresh fresh]

/-- An insert that fails leaves no record, and neither does one that is to keep it for no time at all. -/
theorem eq_of_insert_fresh {record : Record}
    (found : (board.insert snapshot).1.store.record? snapshot.ms = some record) :
    record = snapshot.toRecord := by
  cases failure : (board.conditions .write).failure with
  | some message =>
      rw [(insert_refused failure).1.store, fresh] at found
      exact nomatch found
  | none =>
      have written := (@insert_written _ _ board snapshot failure).2
      by_cases positive : 1 ≤ board.settings.retention
      · exact Option.some.inj (found.symm.trans (insert_fresh fresh written positive))
      · rw [record_of_insert failure, Store.record_write_dropped board.store (by omega),
          if_pos rfl] at found
        exact nomatch found

end

end Board

/-- A snapshot of a dictionary of feeds, whatever their names and values, before 1970 or after. -/
theorem stored_form_decodes {snapshot : Snapshot} (distinct : (names snapshot.values).Nodup) :
    ((∃ decoded, Snapshot.ofRecord snapshot.toRecord = .ok decoded) ↔
        "timestamp" ∉ names snapshot.values) ∧
      (∀ decoded, Snapshot.ofRecord snapshot.toRecord = .ok decoded →
        decoded = ⟨snapshot.wall.floorMs, snapshot.values⟩ ∧ decoded.toRecord = snapshot.toRecord) ∧
      ∀ {Time : Type} [Timeline Time] (board : Board Time), board.store.record? snapshot.ms = none →
        ((board.insert snapshot).2 = .ok () → 1 ≤ board.settings.retention →
          (board.insert snapshot).1.store.record? snapshot.ms = some snapshot.toRecord) ∧
        ∀ record, (board.insert snapshot).1.store.record? snapshot.ms = some record →
          ∀ decoded, Snapshot.ofRecord record = .ok decoded → decoded.toRecord = record := by
  have decodes : (∃ decoded, Snapshot.ofRecord snapshot.toRecord = .ok decoded) ↔
      "timestamp" ∉ names snapshot.values := by
    constructor
    · rintro ⟨decoded, found⟩ named
      rw [Snapshot.of_record_of_feed_timestamp named] at found
      exact nomatch found
    · intro noTimestamp
      exact ⟨_, Snapshot.of_record_to_record distinct noTimestamp⟩
  have back (decoded : Snapshot) (found : Snapshot.ofRecord snapshot.toRecord = .ok decoded) :
      decoded = snapshot.floored ∧ decoded.toRecord = snapshot.toRecord := by
    have given := Snapshot.of_record_to_record distinct (decodes.mp ⟨decoded, found⟩)
    have same := Except.ok.inj (found.symm.trans given)
    refine ⟨same, ?_⟩
    rw [same, snapshot.floored_to_record]
  refine ⟨decodes, back, fun board fresh => ⟨Board.insert_fresh fresh, ?_⟩⟩
  intro record found decoded decodesTo
  rw [Board.eq_of_insert_fresh fresh found] at decodesTo ⊢
  exact (back decoded decodesTo).2

/-- Half a millisecond before 1970, which is kept as the millisecond before. -/
def eveSnapshot (feed : String) : Snapshot := ⟨⟨62135596799999500, by decide⟩, [(feed, -0.0)]⟩

def eveBoard : Board Rat := Board.start ⟨60, 500, 1000⟩ ["gold"] (eveSnapshot "gold").timestamp

theorem stored_form_decodes_before_epoch :
    (names (eveSnapshot "gold").values).Nodup ∧ (names (eveSnapshot "timestamp").values).Nodup ∧
      Snapshot.ofRecord (eveSnapshot "gold").toRecord =
        .ok ⟨⟨62135596799999000, by decide⟩, [("gold", -0.0)]⟩ ∧
      (eveBoard.insert (eveSnapshot "gold")).1.store.record? (eveSnapshot "gold").ms =
        some (eveSnapshot "gold").toRecord ∧
      ¬∃ decoded, Snapshot.ofRecord (eveSnapshot "timestamp").toRecord = .ok decoded := by
  have distinct (feed : String) : (names (eveSnapshot feed).values).Nodup := List.nodup_singleton feed
  obtain ⟨decodes, back, inserts⟩ := stored_form_decodes (distinct "gold")
  obtain ⟨decoded, found⟩ := decodes.mpr (by decide)
  have inserted := (inserts eveBoard rfl).1 rfl (by decide)
  have refused := (stored_form_decodes (distinct "timestamp")).1
  refine ⟨distinct "gold", distinct "timestamp", ?_, inserted, fun decodes => refused.mp decodes (by decide)⟩
  rw [found, (back decoded found).1]
  rfl

end PriceBoard
