import PriceBoard.Proofs.Board.Reading
import PriceBoard.Proofs.Store.Decoding

/-!
# The paged scan finds what a full scan finds

A scan finds what its first slice holds, batch by batch. Narrowing that slice to the time bounds of the
predicate leaves out only snapshots that the predicate does not accept.
-/
namespace PriceBoard

open PriceBoard.DateTime

namespace Board

variable {Time : Type} [Timeline Time]

/-! ### The first slice -/

theorem filter_map_filter {Entry Found : Type} {find : Entry → Option Found}
    {keep : Entry → Bool} {accepts : Found → Bool} (entries : List Entry)
    (kept : ∀ entry ∈ entries, ∀ found, find entry = some found → accepts found = true →
      keep entry = true) :
    ((entries.filter keep).filterMap find).filter accepts =
      (entries.filterMap find).filter accepts := by
  induction entries with
  | nil => rfl
  | cons entry rest induction =>
      have others := induction fun other member => kept other (List.mem_cons_of_mem _ member)
      rw [List.filter_cons, List.filterMap_cons]
      split_ifs with keeps
      · rw [List.filterMap_cons]
        cases find entry with
        | none => exact others
        | some found => simp only [List.filter_cons, others]
      · cases hit : find entry with
        | none => exact others
        | some found =>
            have rejected : ¬accepts found = true := fun accepted =>
              keeps (kept entry List.mem_cons_self found hit accepted)
            rw [others, List.filter_cons, if_neg rejected]

theorem slice_keeps_accepted {store : Store} (wellformed : store.Wellformed)
    {predicate : Predicate} (aware : predicate.isAware = true) {bounds : Bounds}
    (bounded : predicate.bounds = .ok bounds) :
    (store.snapshotsOf (store.index.slice (Reading.limitOf bounds.high) (bounds.low.map (·.epochMs)))).filter
        predicate.accepts =
      (store.snapshotsOf store.index.reverse).filter predicate.accepts := by
  rw [Index.slice, ← List.filter_reverse]
  apply filter_map_filter store.index.reverse
  intro entry member snapshot found accepted
  have inRange := wellformed.index.inRange entry (List.mem_reverse.mp member)
  have instant := Store.snapshot_at_instant wellformed inRange found
  exact Bool.and_eq_true_iff.mpr (Reading.bounds_hold_accepted aware bounded instant accepted)

/-! ### The search -/

theorem matching_eq_accepted {board : Board Time} (wellformed : board.store.Wellformed)
    {predicate : Predicate} (aware : predicate.isAware = true) (limit : ℤ)
    (batch : 1 ≤ board.settings.batch)
    (indexAnswers : (board.conditions .descending).failure = none)
    (recordsAnswer : (board.conditions .load).failure = none) :
    (board.matching predicate limit).2 =
      .ok (((board.store.snapshotsOf board.store.index.reverse).filter predicate.accepts).take
        limit.toNat) := by
  have sound := @Predicate.sound_of_aware ⟨⟨0, by decide⟩, []⟩ predicate aware
  obtain ⟨dead, checked⟩ := sound.checked
  obtain ⟨bounds, bounded⟩ := sound.bounded
  rw [matching]
  cases dead with
  | true =>
      have rejected : (board.store.snapshotsOf board.store.index.reverse).filter
          predicate.accepts = [] := by
        apply List.filter_eq_nil_iff.mpr
        intro snapshot _ accepted
        apply Reading.rejects_of_dead aware checked snapshot
        rw [Predicate.holds_eq_accepts aware, accepted]
      rw [Reading.begin_dead checked, rejected, List.take_nil, read_done]
  | false =>
      by_cases unwanted : limit ≤ 0
      · rw [Reading.begin_unwanted checked unwanted, Int.toNat_of_nonpos unwanted, List.take_zero, read_done]
      · have length := @Index.slice_length_le board.store.index (Reading.limitOf bounds.high)
          (bounds.low.map (·.epochMs))
        have answers : ∀ command ∈ [Command.descending, Command.load],
            (board.conditions command).failure = none :=
          List.forall_mem_cons.mpr ⟨indexAnswers, List.forall_mem_singleton.mpr recordsAnswer⟩
        rw [Reading.begin_scan checked unwanted bounded]
        apply read_found .predicate
        · exact answers
        · rw [Reading.outcome_scan wellformed aware (by simp only; omega)
            (by simp only [List.length_nil]; omega) (by simp only; omega)]
          exact congrArg (fun found => ReadOutcome.found (found.take limit.toNat))
            (slice_keeps_accepted wellformed aware bounded)

def withBatch (board : Board Time) (batch : ℤ) : Board Time :=
  { board with settings := { board.settings with batch } }

/-- Whatever the size of its batches, a search finds the first of the snapshots that the predicate holds
of, out of all whose records are there, decoded, from the newest entry of the index to the oldest. -/
theorem matching_eq_full_scan {board : Board Time} (reachable : board.store.Reachable)
    {predicate : Predicate} (aware : predicate.isAware = true) (limit : ℤ)
    (indexAnswers : (board.conditions .descending).failure = none)
    (recordsAnswer : (board.conditions .load).failure = none) :
    (board.store.index.reverse.Pairwise fun newer older => older.score < newer.score) ∧
      (∀ entry ∈ board.store.index, entry.member = Decimal.intText entry.score) ∧
      List.Forall₂ (fun record snapshot => Snapshot.ofRecord record = .ok snapshot)
        (board.store.index.reverse.filterMap fun entry => board.store.record? entry.score)
        (board.store.snapshotsOf board.store.index.reverse) ∧
      (∀ snapshot, predicate.holds snapshot = .ok (predicate.accepts snapshot)) ∧
      ∀ batch, 1 ≤ batch →
        ((board.withBatch batch).matching predicate limit).2 =
          .ok (((board.store.snapshotsOf board.store.index.reverse).filter predicate.accepts).take
            limit.toNat) := by
  have wellformed := Store.reachable_wellformed reachable
  have descending := List.pairwise_reverse.mpr wellformed.index.ascending
  have decoded := Store.snapshots_decoded wellformed board.store.index.reverse
    fun entry member => List.mem_reverse.mp member
  refine ⟨descending, wellformed.index.named, decoded, Predicate.holds_eq_accepts aware, ?_⟩
  intro batch positive
  exact @matching_eq_accepted _ _ (board.withBatch batch) wellformed _ aware limit positive
    indexAnswers recordsAnswer

def atSecond (second : Fin 3) (value : Float) : Snapshot :=
  ⟨⟨63840000300000000 + second * 1000000, by
    have bounded := second.isLt
    unfold dayLimit microsPerDay
    omega⟩, [("bitcoin", value)]⟩

/-- A board that holds three snapshots, of which the second has lost its record. -/
def boardWithGap : Board Rat :=
  { Board.start ⟨86400, 500, 1000⟩ ["bitcoin"] (atSecond 2 0).timestamp with
    store := ((((Store.empty.write 86400 (atSecond 0 1.5)).write 86400 (atSecond 1 2.5)).write 86400
      (atSecond 2 3.5)).trim 86400 (atSecond 2 3.5).ms).dropRecord (atSecond 1 2.5).ms }

theorem gap_reachable : boardWithGap.store.Reachable := by
  have noTimestamp (second : Fin 3) (value : Float) :
      "timestamp" ∉ names (atSecond second value).values := by
    simp [names, atSecond]
  exact .dropRecord _ (.trim _ _ (.write _ _ (noTimestamp 2 3.5) (.write _ _ (noTimestamp 1 2.5)
    (.write _ _ (noTimestamp 0 1.5) .empty))))

theorem gap_records : boardWithGap.store.index.reverse.map (fun entry =>
    boardWithGap.store.record? entry.score) =
      [some (atSecond 2 3.5).toRecord, none, some (atSecond 0 1.5).toRecord] := by
  decide +kernel

theorem gap_holds : boardWithGap.store.snapshotsOf boardWithGap.store.index.reverse =
    [atSecond 2 3.5, atSecond 0 1.5] := by
  have decoded (second : Fin 3) (value : Float) :
      Snapshot.ofRecord (atSecond second value).toRecord = .ok (atSecond second value).floored :=
    Snapshot.of_record_to_record (by simp [names, atSecond]) (by simp [names, atSecond])
  have found := congrArg (List.filterMap fun record : Option Record =>
    record.bind fun record => (Snapshot.ofRecord record).toOption) gap_records
  rw [List.filterMap_map] at found
  refine found.trans ?_
  simp only [List.filterMap_cons, Option.bind_some, Option.bind_none, decoded, Except.toOption,
    List.filterMap_nil]
  rfl

/-- A bitcoin above 2 since the first microsecond after the first snapshot. -/
def aboveTwo : Predicate := .all [.comparison "bitcoin" .greater 2,
  .timeAfter ⟨⟨63840000300000001, by decide⟩, some Offset.utc⟩]

theorem matching_eq_full_scan_with_gap :
    boardWithGap.store.Reachable ∧ aboveTwo.isAware = true ∧
      ((boardWithGap.withBatch 1).matching aboveTwo 10).2 = .ok [atSecond 2 3.5] ∧
      ((boardWithGap.withBatch 2).matching (.any [.comparison "bitcoin" .greater 1]) 10).2 =
        .ok [atSecond 2 3.5, atSecond 0 1.5] := by
  obtain ⟨_, _, _, _, recent⟩ := matching_eq_full_scan gap_reachable (rfl : aboveTwo.isAware = true)
    10 rfl rfl
  obtain ⟨_, _, _, _, all⟩ := matching_eq_full_scan gap_reachable
    (rfl : (Predicate.any [.comparison "bitcoin" .greater 1]).isAware = true) 10 rfl rfl
  refine ⟨gap_reachable, rfl, ?_, ?_⟩
  · rw [recent 1 (by decide), gap_holds]
    rfl
  · rw [all 2 (by decide), gap_holds]
    rfl

end Board

end PriceBoard
