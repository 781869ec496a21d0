import PriceBoard.Proofs.Board.Matching
import PriceBoard.Proofs.Board.Since
import PriceBoard.Proofs.Query.Awareness
import PriceBoard.Proofs.Store.Uniform

/-!
# Two readings of a window

A window can be read oldest first, by the milliseconds of its cutoff, or newest first, by a predicate
that tests the cutoff itself. The first reading takes the whole millisecond of the cutoff, so where the
cutoff is inside a millisecond it may find one snapshot more.
-/
namespace PriceBoard

open PriceBoard.DateTime

theorem filter_map_comm {Entry Found : Type} {find : Entry → Option Found} {keep : Entry → Bool}
    {accepts : Found → Bool} (entries : List Entry)
    (same : ∀ entry ∈ entries, ∀ found, find entry = some found → keep entry = accepts found) :
    (entries.filter keep).filterMap find = (entries.filterMap find).filter accepts := by
  rw [← Board.filter_map_filter entries fun entry member found hit accepted =>
    (same entry member found hit).trans accepted]
  apply Eq.symm
  apply List.filter_eq_self.mpr
  intro found member
  obtain ⟨entry, inside, hit⟩ := List.mem_filterMap.mp member
  obtain ⟨listed, kept⟩ := List.mem_filter.mp inside
  rw [← same entry listed found hit]
  exact kept

namespace Board

section

variable {store : Store} {cutoff : DateTime}

/-- A snapshot of the cutoff's own millisecond that is before the cutoff. -/
def Straggles (cutoff : DateTime) (snapshot : Snapshot) : Prop :=
  snapshot.ms = cutoff.epochMs ∧ snapshot.timestamp.instant < cutoff.instant

instance (cutoff : DateTime) (snapshot : Snapshot) : Decidable (Straggles cutoff snapshot) :=
  inferInstanceAs (Decidable (_ ∧ _))

/-- The entries from the milliseconds of a cutoff on hold its stragglers, and then the snapshots from the
cutoff on. -/
theorem snapshots_from_cutoff (wellformed : store.Wellformed) (cutoff : DateTime) :
    store.snapshotsOf (store.index.filter (cutoff.epochMs ≤ ·.score)) =
      (store.snapshotsOf store.index).filter (Straggles cutoff) ++
        (store.snapshotsOf store.index).filter (cutoff.instant ≤ ·.timestamp.instant) := by
  have ascending : Index.Ascending (store.index.filter (cutoff.epochMs ≤ ·.score)) :=
    wellformed.index.ascending.sublist List.filter_sublist
  have cut := @Index.filter_cut _ ascending
    (fun entry => decide (instantOfMs entry.score < cutoff.instant)) (by
      intro older newer before early
      have early := of_decide_eq_true early
      apply decide_eq_true
      unfold instantOfMs at early ⊢
      omega)
  rw [← cut, Store.snapshotsOf, List.filterMap_append, List.filter_filter, List.filter_filter]
  congr 1
  · apply filter_map_comm
    intro entry indexed snapshot found
    obtain ⟨instant, ms⟩ := found_instant wellformed indexed found
    have order := le_epoch_ms_iff entry.score cutoff
    rw [← Bool.decide_and]
    apply decide_eq_decide.mpr
    rw [Straggles, instant, ms]
    constructor
    · rintro ⟨early, reached⟩
      exact ⟨le_antisymm (order.mpr early.le) reached, early⟩
    · rintro ⟨same, early⟩
      exact ⟨early, same.ge⟩
  · apply filter_map_comm
    intro entry indexed snapshot found
    obtain ⟨instant, _⟩ := found_instant wellformed indexed found
    have reached := epoch_ms_le_of_instant_le entry.score cutoff
    rw [← decide_not, ← Bool.decide_and]
    apply decide_eq_decide.mpr
    rw [instant, not_lt]
    exact ⟨And.left, fun late => ⟨late, reached late⟩⟩

theorem found_ascending (wellformed : store.Wellformed) :
    (store.snapshotsOf store.index).Pairwise fun older newer => older.ms < newer.ms := by
  apply List.pairwise_filterMap.mpr
  apply wellformed.index.ascending.imp_of_mem
  intro older newer olderIndexed newerIndexed before snapshot found next nextFound
  rw [(found_instant wellformed olderIndexed found).2,
    (found_instant wellformed newerIndexed nextFound).2]
  exact before

theorem stragglers_at_most_one (wellformed : store.Wellformed) (cutoff : DateTime) :
    ((store.snapshotsOf store.index).filter (Straggles cutoff)).length ≤ 1 := by
  have ascending := (found_ascending wellformed).filter
    fun snapshot => decide (Straggles cutoff snapshot)
  have straggling : ∀ snapshot ∈ (store.snapshotsOf store.index).filter (Straggles cutoff),
      snapshot.ms = cutoff.epochMs := by
    intro snapshot member
    exact (of_decide_eq_true (List.mem_filter.mp member).2).1
  generalize (store.snapshotsOf store.index).filter (Straggles cutoff) = stragglers
    at ascending straggling ⊢
  match stragglers with
  | [] => exact Nat.zero_le 1
  | [_] => exact Nat.le_refl 1
  | first :: second :: rest =>
      have before := (List.pairwise_cons.mp ascending).1 second List.mem_cons_self
      have same := straggling second (List.mem_cons_of_mem _ List.mem_cons_self)
      rw [straggling first List.mem_cons_self, same] at before
      exact absurd before (lt_irrefl _)

theorem no_straggler_at_whole_ms (wellformed : store.Wellformed)
    (whole : cutoff.instant = instantOfMs cutoff.epochMs) :
    (store.snapshotsOf store.index).filter (Straggles cutoff) = [] := by
  apply List.filter_eq_nil_iff.mpr
  intro snapshot member straggles
  obtain ⟨entry, indexed, found⟩ := List.mem_filterMap.mp member
  obtain ⟨instant, ms⟩ := found_instant wellformed indexed found
  obtain ⟨same, early⟩ := of_decide_eq_true straggles
  rw [whole, instant, ← same, ms] at early
  exact absurd early (lt_irrefl _)

theorem accepts_time_after (aware : cutoff.isAware = true) (snapshot : Snapshot) :
    (Predicate.timeAfter cutoff).accepts snapshot =
      decide (cutoff.instant ≤ snapshot.timestamp.instant) := by
  have ordered := compare_aware (show snapshot.timestamp.isAware = true from rfl) aware
  rw [Predicate.accepts, Predicate.holds, ordered]
  apply Bool.eq_iff_iff.mpr
  rw [decide_eq_true_iff, ← not_lt, ← Int.compare_eq_lt]
  simp [Except.map]

end

/-! ### Windows -/

theorem window_cutoff_aware {choice : WindowChoice} {now cutoff : DateTime}
    (aware : now.isAware = true) (resolved : History.windowCutoff choice now = .ok cutoff) :
    cutoff.isAware = true := by
  obtain ⟨window, _, moved⟩ := ok_of_bind resolved
  obtain ⟨span, _, subtracted⟩ := ok_of_bind (ok_of_map_error moved)
  exact aware_of_offset (at_wall_offset subtracted) aware

variable {Time : Type} [Timeline Time] {board : Board Time} {choice : WindowChoice} {cutoff : DateTime}

theorem of_window_eq_since (resolved : History.windowCutoff choice board.now = .ok cutoff) :
    (board.ofWindow choice none).2 = (board.since cutoff).2 := by
  unfold ofWindow History.ofWindow
  rw [resolved]
  rfl

/-- A search for everything from a cutoff on, with room for the whole index. -/
theorem matching_time_after (wellformed : board.store.Wellformed) (aware : cutoff.isAware = true)
    (batch : 1 ≤ board.settings.batch) {limit : ℤ} (enough : board.store.index.length ≤ limit)
    (indexAnswers : (board.conditions .descending).failure = none)
    (recordsAnswer : (board.conditions .load).failure = none) :
    (board.matching (.timeAfter cutoff) limit).2 = .ok
      ((board.store.snapshotsOf board.store.index).filter
        (cutoff.instant ≤ ·.timestamp.instant)).reverse := by
  have backwards : board.store.snapshotsOf board.store.index.reverse =
      (board.store.snapshotsOf board.store.index).reverse := List.filterMap_reverse
  have accepted : ((board.store.snapshotsOf board.store.index).filter
      (Predicate.timeAfter cutoff).accepts) = (board.store.snapshotsOf board.store.index).filter
        (cutoff.instant ≤ ·.timestamp.instant) :=
    List.filter_congr fun snapshot _ => accepts_time_after aware snapshot
  have fits : ((board.store.snapshotsOf board.store.index).filter
      (cutoff.instant ≤ ·.timestamp.instant)).reverse.length ≤ limit.toNat := by
    have found : (board.store.snapshotsOf board.store.index).length ≤ board.store.index.length :=
      List.length_filterMap_le _ _
    have kept := List.length_filter_le
      (fun snapshot : Snapshot => decide (cutoff.instant ≤ snapshot.timestamp.instant))
      (board.store.snapshotsOf board.store.index)
    rw [List.length_reverse]
    omega
  have predicateAware : (Predicate.timeAfter cutoff).isAware = true := aware
  rw [matching_eq_accepted wellformed predicateAware limit batch indexAnswers recordsAnswer, backwards,
    List.filter_reverse, accepted, List.take_of_length_le fits]

/-- Both readings of a window find the stored snapshots from its cutoff on, the one in the reverse order
of the other. The reading by milliseconds may begin with one more: a snapshot of the cutoff's own
millisecond that is before the cutoff. -/
theorem window_and_predicate_find (reachable : board.store.Reachable)
    (aware : board.now.isAware = true)
    (resolved : History.windowCutoff choice board.now = .ok cutoff)
    (batch : 1 ≤ board.settings.batch) {limit : ℤ} (enough : board.store.index.length ≤ limit)
    (answers : ∀ command : Command, (board.conditions command).failure = none) :
    board.store.load board.store.index.members = .ok (board.store.snapshotsOf board.store.index) ∧
      (board.matching (.timeAfter cutoff) limit).2 = .ok
        ((board.store.snapshotsOf board.store.index).filter
          (cutoff.instant ≤ ·.timestamp.instant)).reverse ∧
      (board.ofWindow choice none).2 = .ok
        ((board.store.snapshotsOf board.store.index).filter (Straggles cutoff) ++
          (board.store.snapshotsOf board.store.index).filter
            (cutoff.instant ≤ ·.timestamp.instant)) ∧
      ((board.store.snapshotsOf board.store.index).filter (Straggles cutoff)).length ≤ 1 ∧
      (cutoff.instant = instantOfMs cutoff.epochMs →
        (board.store.snapshotsOf board.store.index).filter (Straggles cutoff) = []) := by
  have wellformed := Store.reachable_wellformed reachable
  have cutoffAware := window_cutoff_aware aware resolved
  refine ⟨?_, ?_, ?_, ?_, ?_⟩
  · exact Store.load_entries wellformed _ fun entry member => member
  · exact matching_time_after wellformed cutoffAware batch enough (answers .descending) (answers .load)
  · rw [of_window_eq_since resolved, since_answered wellformed (answers .ascending) (answers .load),
      snapshots_from_cutoff wellformed]
  · exact stragglers_at_most_one wellformed cutoff
  · exact no_straggler_at_whole_ms wellformed

def onTheMinute : Snapshot := ⟨⟨63840000180000000, by decide⟩, [("bitcoin", 1.5)]⟩

def halfMsLater : Board Rat :=
  { start ⟨3600, 500, 1000⟩ ["bitcoin"] ⟨⟨63840000240000500, by decide⟩, some Offset.utc⟩ with
    store := Store.afterInsert 3600 Store.empty ⟨onTheMinute, none⟩ }

def halfMsCutoff : DateTime := ⟨⟨63840000180000500, by decide⟩, some Offset.utc⟩

theorem half_ms_cutoff_resolved :
    History.windowCutoff (.token (some "1m")) halfMsLater.now = .ok halfMsCutoff := by
  have read : Window.readOrDefault (some "1m") = .ok ⟨1, .minute, by decide⟩ := by rfl
  have moved : (Window.mk 1 .minute (by decide)).cutoff halfMsLater.now = .ok halfMsCutoff := rfl
  unfold History.windowCutoff
  simp only [read]
  exact congrArg (Except.mapError HistoryError.time) moved

theorem half_ms_later_reachable : halfMsLater.store.Reachable :=
  .trim 3600 onTheMinute.ms (.write 3600 onTheMinute (by decide) .empty)

theorem half_ms_later_holds :
    halfMsLater.store.snapshotsOf halfMsLater.store.index = [onTheMinute] := by
  have index : halfMsLater.store.index = [⟨Decimal.intText onTheMinute.ms, onTheMinute.ms⟩] := rfl
  have configured : Feed.Configured ["bitcoin"] := ⟨by decide, by decide⟩
  have keeps : halfMsLater.store.Keeps onTheMinute :=
    Store.keeps_inserted Store.empty_wellformed (Store.uniform_empty ["bitcoin"]) (by decide) configured
      rfl none
  have found : halfMsLater.store.snapshotAt? onTheMinute.ms = some onTheMinute :=
    Store.snapshot_at_of_keeps configured rfl keeps
  rw [index, Store.snapshotsOf, List.filterMap_cons, found, List.filterMap_nil]

theorem window_and_predicate_find_half_ms_later :
    halfMsLater.store.load halfMsLater.store.index.members = .ok [onTheMinute] ∧
      (halfMsLater.matching (.timeAfter halfMsCutoff) 1).2 =
        .ok ([onTheMinute].filter (halfMsCutoff.instant ≤ ·.timestamp.instant)).reverse ∧
      (halfMsLater.ofWindow (.token (some "1m")) none).2 =
        .ok ([onTheMinute].filter (Straggles halfMsCutoff) ++
          [onTheMinute].filter (halfMsCutoff.instant ≤ ·.timestamp.instant)) := by
  have aware : halfMsLater.now.isAware = true := rfl
  have batch : 1 ≤ halfMsLater.settings.batch := by decide
  have enough : (List.length halfMsLater.store.index : ℤ) ≤ 1 := by decide
  obtain ⟨loaded, matched, windowed, _⟩ := window_and_predicate_find half_ms_later_reachable
    aware half_ms_cutoff_resolved batch enough fun _ => rfl
  rw [half_ms_later_holds] at loaded matched windowed
  exact ⟨loaded, matched, windowed⟩

/-- The window of the last minute finds what its predicate does not accept. -/
theorem window_finds_straggler :
    halfMsLater.store.Reachable ∧ halfMsLater.now.isAware = true ∧
      History.windowCutoff (.token (some "1m")) halfMsLater.now = .ok halfMsCutoff ∧
      onTheMinute.timestamp.instant < halfMsCutoff.instant ∧
      (halfMsLater.ofWindow (.token (some "1m")) none).2 = .ok [onTheMinute] ∧
      (halfMsLater.matching (.timeAfter halfMsCutoff) 1).2 = .ok [] := by
  have wellformed := Store.reachable_wellformed half_ms_later_reachable
  have before : onTheMinute.timestamp.instant < halfMsCutoff.instant := by decide
  refine ⟨half_ms_later_reachable, rfl, half_ms_cutoff_resolved, before, ?_, ?_⟩
  · rw [of_window_eq_since half_ms_cutoff_resolved, since_answered wellformed rfl rfl,
      snapshots_from_cutoff wellformed, half_ms_later_holds]
    rfl
  · rw [matching_time_after wellformed rfl (by decide) (by decide) rfl rfl, half_ms_later_holds]
    rfl

end Board
end PriceBoard
