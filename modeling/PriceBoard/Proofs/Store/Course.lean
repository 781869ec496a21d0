import PriceBoard.Proofs.Results
import PriceBoard.Proofs.Store.Scan

/-!
# The course of a reading

No command of a reading changes the store, so the commands that it takes and how it ends are fixed when
it begins. A reading from a cutoff ends with the snapshots from there on, and a scan with the snapshots
of its slice that the predicate accepts, up to its limit.
-/
namespace PriceBoard

namespace Reading

def course (store : Store) : Nat → Reading → List Command
  | 0, _ => []
  | budget + 1, reading =>
    reading.command :: match reading.advance store with
      | .ok (.more next) => course store budget next
      | _ => []

def outcome (store : Store) : Nat → Reading → ReadOutcome
  | 0, _ => .unfinished
  | budget + 1, reading =>
    match reading.advance store with
    | .error error => .failed error
    | .ok (.done snapshots) => .found snapshots
    | .ok (.more next) => outcome store budget next

def commands : Reading → List Command
  | .sinceIndex _ | .sinceRecords _ => [.ascending, .load]
  | .scanIndex _ | .scanRecords _ _ => [.descending, .load]

variable {store : Store} {reading next : Reading}

theorem command_mem_commands (reading : Reading) : reading.command ∈ reading.commands := by
  cases reading <;> simp [command, commands]

theorem advance_commands (advanced : reading.advance store = .ok (.more next)) :
    next.commands = reading.commands := by
  cases reading with
  | sinceIndex low =>
      simp only [advance] at advanced
      split at advanced
      · cases advanced
      · cases advanced
        rfl
  | sinceRecords members =>
      obtain ⟨_, _, same⟩ := ok_of_map advanced
      cases same
  | scanIndex scan =>
      simp only [advance] at advanced
      split at advanced
      · cases advanced
      · obtain ⟨_, _, same⟩ := ok_of_map advanced
        cases same
        rfl
  | scanRecords scan members =>
      simp only [advance] at advanced
      split at advanced
      · cases advanced
      · split_ifs at advanced
        · cases advanced
        · cases advanced
          rfl

theorem outcome_more (budget : ℕ) (advanced : reading.advance store = .ok (.more next)) :
    outcome store (budget + 1) reading = outcome store budget next := by
  rw [outcome, advanced]

theorem outcome_done (budget : ℕ) {found : List Snapshot}
    (advanced : reading.advance store = .ok (.done found)) :
    outcome store (budget + 1) reading = .found found := by
  rw [outcome, advanced]

/-! ### From a cutoff -/

theorem outcome_since (wellformed : store.Wellformed) (cutoff : DateTime) (budget : ℕ) :
    outcome store (budget + 2) (since cutoff) =
      .found (store.snapshotsOf (store.index.filter (cutoff.epochMs ≤ ·.score))) := by
  generalize entriesAre : store.index.filter (cutoff.epochMs ≤ ·.score) = entries
  cases entries with
  | nil =>
      apply outcome_done
      simp only [since, advance, Index.ascendingFrom, entriesAre, Index.members, List.map_nil]
      rfl
  | cons first rest =>
      have indexed : ∀ entry ∈ first :: rest, entry ∈ store.index := by
        intro entry member
        rw [← entriesAre] at member
        exact List.mem_of_mem_filter member
      have advanced : (since cutoff).advance store =
          .ok (.more (.sinceRecords (Index.members (first :: rest)))) := by
        simp only [since, advance, Index.ascendingFrom, entriesAre, Index.members, List.map_cons]
      rw [outcome_more (budget + 1) advanced]
      apply outcome_done
      rw [advance, Store.load_entries wellformed _ indexed]
      rfl

/-! ### A scan -/

variable {scan : Scan}

/-- Two commands read one batch, which ends the scan or leaves the entries below its last one. -/
theorem outcome_batch (wellformed : store.Wellformed) (aware : scan.predicate.isAware = true)
    (room : scan.found.length ≤ scan.limit) (budget : ℕ) {last : IndexEntry}
    (isLast : last ∈ (scan.page store).getLast?) {found : List Snapshot}
    (foundIs : (scan.found ++ (store.snapshotsOf (scan.page store)).filter
      scan.predicate.accepts).take scan.limit = found) :
    outcome store (budget + 2) (.scanIndex scan) =
      if scan.limit ≤ found.length then .found found
      else outcome store budget (.scanIndex { scan with high := .before last.score, found }) := by
  have records := @advance_records store { scan with high := .before last.score } wellformed aware
    room (scan.page store) (fun entry member => Scan.mem_of_mem_page member) found foundIs
  rw [outcome_more (budget + 1) (advance_index wellformed isLast)]
  by_cases full : scan.limit ≤ found.length
  · rw [if_pos full] at records ⊢
    exact outcome_done budget records
  · rw [if_neg full] at records ⊢
    exact outcome_more budget records

theorem take_in_batches {Found : Type} (limit : ℕ) (found more rest : List Found) :
    ((found ++ more).take limit ++ rest).take limit = (found ++ (more ++ rest)).take limit := by
  rw [← List.append_assoc]
  rcases le_total limit (found ++ more).length with full | short
  · have exact : ((found ++ more).take limit).length = limit := by
      rw [List.length_take, min_eq_left full]
    rw [List.take_append_of_le_length exact.ge, List.take_append_of_le_length full, List.take_take,
      min_self]
  · rw [List.take_of_length_le short]

/-- A batch of no entries ends the scan. -/
theorem outcome_no_page (ended : scan.page store = []) (budget : ℕ) :
    outcome store (budget + 1) (.scanIndex scan) = .found scan.found :=
  outcome_done budget (advance_index_end ended)

/-- From the start of any batch, a scan ends with what it has found and what the rest of its slice
holds, up to its limit. -/
theorem outcome_scan {budget : ℕ} (wellformed : store.Wellformed)
    (aware : scan.predicate.isAware = true) (nonzero : scan.batch ≠ 0)
    (room : scan.found.length < scan.limit)
    (enough : 2 * (store.index.slice scan.high scan.low).length + 1 ≤ budget) :
    outcome store budget (.scanIndex scan) =
      .found ((scan.found ++ (store.snapshotsOf (store.index.slice scan.high scan.low)).filter
        scan.predicate.accepts).take scan.limit) := by
  induction budget using Nat.strong_induction_on generalizing scan with
  | _ budget induction =>
      by_cases empty : store.index.slice scan.high scan.low = []
      · have ended : scan.page store = [] := by rw [Scan.page, empty, List.take_nil]
        obtain ⟨fuel, rfl⟩ := Nat.exists_eq_add_of_le' (Nat.le_trans (Nat.le_add_left 1 _) enough)
        rw [outcome_no_page ended fuel, empty]
        change _ = ReadOutcome.found ((scan.found ++ []).take scan.limit)
        rw [List.append_nil, List.take_of_length_le room.le]
      · have positive := Index.batch_length_pos nonzero empty
        have stored := List.length_pos_iff.mpr empty
        have nonempty : scan.page store ≠ [] := by
          intro ended
          rcases List.take_eq_nil_iff.mp ended with zero | nothing
          · omega
          · exact empty nothing
        have isLast := List.getLast_mem_getLast? nonempty
        have rest := Index.slice_before wellformed.index.ascending isLast
        have split := congrArg store.snapshotsOf (List.take_append_drop
          (store.index.batchLength scan.batch) (store.index.slice scan.high scan.low))
        rw [Store.snapshotsOf, List.filterMap_append] at split
        change store.snapshotsOf (scan.page store) ++ store.snapshotsOf _ = _ at split
        obtain ⟨fuel, rfl⟩ : ∃ fuel, budget = fuel + 2 := ⟨budget - 2, by omega⟩
        rw [outcome_batch wellformed aware room.le fuel isLast rfl, ← split, List.filter_append,
          ← take_in_batches]
        split_ifs with full
        · rw [List.take_append_of_le_length full, List.take_take, min_self]
        · rw [← rest]
          apply @induction fuel (by omega) { scan with high := .before _, found := _ } aware nonzero
            (Nat.lt_of_not_le full)
          change 2 * (store.index.slice (.before _) scan.low).length + 1 ≤ fuel
          rw [rest, List.length_drop]
          omega

def limitOf (high : Option DateTime) : Index.Limit :=
  match high with
  | some high => .upTo high.epochMs
  | none => .unbounded

open DateTime in
/-- The time bounds of a predicate admit the millisecond of every snapshot that it accepts. -/
theorem bounds_hold_accepted {predicate : Predicate} (aware : predicate.isAware = true) {bounds : Bounds}
    (bounded : predicate.bounds = .ok bounds) {ms : ℤ} {snapshot : Snapshot}
    (instant : snapshot.timestamp.instant = instantOfMs ms)
    (accepted : predicate.accepts snapshot = true) :
    (limitOf bounds.high).admits ms = true ∧
      (bounds.low.map (·.epochMs)).all (· ≤ ms) = true := by
  have sound := @Predicate.sound_of_aware snapshot predicate aware
  have boundsAware := (Bounds.aware_iff bounds).mp (sound.aware bounds bounded)
  have holds : predicate.holds snapshot = .ok true := by
    rw [Predicate.holds_eq_accepts aware, accepted]
  obtain ⟨aboveLow, belowHigh⟩ := sound.inside holds bounds bounded
  constructor
  · cases high : bounds.high with
    | none => rfl
    | some cutoff =>
        apply decide_eq_true
        apply (le_epoch_ms_iff _ _).mpr
        rw [← instant]
        exact (at_most_iff_instant rfl (boundsAware.2 cutoff high)).mp (belowHigh cutoff high)
  · cases low : bounds.low with
    | none => rfl
    | some cutoff =>
        apply decide_eq_true
        apply epoch_ms_le_of_instant_le
        rw [← instant]
        exact (at_most_iff_instant (boundsAware.1 cutoff low) rfl).mp (aboveLow cutoff low)

/-! ### The search -/

/-- A predicate that is seen to be always false accepts nothing. -/
theorem rejects_of_dead {predicate : Predicate} (aware : predicate.isAware = true)
    (dead : predicate.contradictory = .ok true) (snapshot : Snapshot) :
    ¬predicate.holds snapshot = .ok true := by
  intro holds
  have alive := (@Predicate.sound_of_aware snapshot predicate aware).alive holds
  simp [dead] at alive

theorem begin_dead {predicate : Predicate} (dead : predicate.contradictory = .ok true)
    (limit batch : ℤ) : matching predicate limit batch = .ok (.done []) := by
  rw [matching, dead]

theorem begin_unwanted {predicate : Predicate} (alive : predicate.contradictory = .ok false)
    {limit : ℤ} (unwanted : limit ≤ 0) (batch : ℤ) :
    matching predicate limit batch = .ok (.done []) := by
  rw [matching, alive]
  exact if_pos unwanted

theorem begin_scan {predicate : Predicate} (alive : predicate.contradictory = .ok false)
    {limit : ℤ} (wanted : ¬limit ≤ 0) {bounds : Bounds} (bounded : predicate.bounds = .ok bounds)
    (batch : ℤ) :
    matching predicate limit batch = .ok (.more (.scanIndex ⟨predicate, limit.toNat, batch,
      bounds.low.map (·.epochMs), limitOf bounds.high, []⟩)) := by
  rw [matching, alive]
  simp only [if_neg wanted, bounded]
  rfl

end Reading

namespace Progress

def course (store : Store) (budget : ℕ) : Progress → List Command
  | .done _ => []
  | .more reading => reading.course store budget

def outcome (store : Store) (budget : ℕ) : Progress → ReadOutcome
  | .done snapshots => .found snapshots
  | .more reading => reading.outcome store budget

end Progress

/-- The snapshots of descending entries, the newest first. -/
theorem Store.snapshots_descending {store : Store} (wellformed : store.Wellformed)
    {entries : List IndexEntry} (inRange : ∀ entry ∈ entries, DateTime.MsInRange entry.score)
    (descending : entries.Pairwise fun newer older => older.score < newer.score) :
    (store.snapshotsOf entries).Pairwise fun newer older =>
      older.timestamp.instant < newer.timestamp.instant := by
  apply List.pairwise_filterMap.mpr
  apply descending.imp_of_mem
  intro newer older newerInside olderInside below snapshot found next nextFound
  rw [snapshot_at_instant wellformed (inRange newer newerInside) found,
    snapshot_at_instant wellformed (inRange older olderInside) nextFound]
  unfold DateTime.instantOfMs
  omega

theorem Store.slice_found_descending {store : Store} (wellformed : store.Wellformed)
    (high : Index.Limit) (low : Option ℤ) :
    (store.snapshotsOf (store.index.slice high low)).Pairwise fun newer older =>
      older.timestamp.instant < newer.timestamp.instant :=
  snapshots_descending wellformed
    (fun entry inside => wellformed.index.inRange entry (Index.mem_of_mem_slice inside))
    (Index.slice_descending wellformed.index.ascending)

/-- Whatever the size of its batches, a search ends. -/
theorem Reading.matching_ends {store : Store} (wellformed : store.Wellformed) {predicate : Predicate}
    (aware : predicate.isAware = true) (limit batch : ℤ) :
    ∃ progress found, Reading.matching predicate limit batch = .ok progress ∧
      progress.outcome store (2 * store.index.length + 2) = .found found ∧
      found.length ≤ limit.toNat ∧
      ∃ high low, found.Sublist (store.snapshotsOf (store.index.slice high low)) := by
  have sound := @Predicate.sound_of_aware ⟨⟨0, by decide⟩, []⟩ predicate aware
  obtain ⟨dead, checked⟩ := sound.checked
  obtain ⟨bounds, bounded⟩ := sound.bounded
  have nothing : ∃ high low, ([] : List Snapshot).Sublist
      (store.snapshotsOf (store.index.slice high low)) := ⟨.unbounded, none, List.nil_sublist _⟩
  by_cases wanted : dead = false ∧ ¬limit ≤ 0
  · obtain ⟨rfl, positive⟩ := wanted
    have length := @Index.slice_length_le store.index (limitOf bounds.high)
      (bounds.low.map (·.epochMs))
    by_cases noPage : batch = 0
    · refine ⟨_, [], begin_scan checked positive bounded batch, ?_, Nat.zero_le _, nothing⟩
      apply outcome_no_page
      rw [Scan.page, noPage]
      exact List.take_zero
    · refine ⟨_, _, begin_scan checked positive bounded batch,
        outcome_scan wellformed aware noPage (by simp only [List.length_nil]; omega)
          (by simp only; omega), ?_, limitOf bounds.high, bounds.low.map (·.epochMs), ?_⟩
      · exact List.length_take_le _ _
      · exact (List.take_sublist _ _).trans List.filter_sublist
  · have atOnce : Reading.matching predicate limit batch = .ok (.done []) := by
      cases dead with
      | true => exact begin_dead checked limit batch
      | false =>
          have unwanted : limit ≤ 0 := by simpa using wanted
          exact begin_unwanted checked unwanted batch
    exact ⟨.done [], [], atOnce, rfl, Nat.zero_le _, nothing⟩

end PriceBoard
