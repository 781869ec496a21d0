import PriceBoard.Proofs.Board.Reading
import PriceBoard.Proofs.Board.Steps
import PriceBoard.Proofs.Store.Scan
import Mathlib.Tactic.FinCases

/-!
# What has been inserted since a cutoff

After any run of inserts a reading from a cutoff gives the survivors of the run from the cutoff on, each
once and with the values of its last insert, the oldest first.
-/
namespace PriceBoard

open PriceBoard.DateTime

/-! ### Inserting -/

def Insert.steps {Time : Type} (insert : Insert) : List (Step Time) :=
  [.fail .trim insert.trimFailure, .insert insert.snapshot]

namespace Board

variable {Time : Type} [Timeline Time]

/-- No command fails but perhaps a trim. -/
def Calm (board : Board Time) : Prop :=
  ∀ command, command ≠ .trim → (board.conditions command).failure = none

theorem run_insert {board : Board Time} (calm : board.Calm) (insert : Insert) :
    (board.run insert.steps).1.store =
        Store.afterInsert board.settings.retention board.store insert ∧
      (board.run insert.steps).1.settings = board.settings ∧ (board.run insert.steps).1.Calm := by
  have writes : (board.conditions.withFailure .trim insert.trimFailure .write).failure = none :=
    calm .write (by decide)
  have trims : (board.conditions.withFailure .trim insert.trimFailure .trim).failure =
      insert.trimFailure := rfl
  have stays : ∀ command, command ≠ .trim →
      (board.conditions.withFailure .trim insert.trimFailure command).failure = none := by
    intro command other
    rw [Conditions.withFailure, if_neg other]
    exact calm command other
  simp only [Insert.steps, run, step, Board.insert, attempt, writes, trims]
  unfold Store.afterInsert
  cases failure : insert.trimFailure with
  | none =>
      rw [failure] at stays
      exact ⟨rfl, rfl, stays⟩
  | some message =>
      rw [failure] at stays
      exact ⟨rfl, rfl, stays⟩

theorem run_inserts {board : Board Time} (calm : board.Calm) (inserts : List Insert) :
    (board.run (inserts.flatMap Insert.steps)).1.store =
        inserts.foldl (Store.afterInsert board.settings.retention) board.store ∧
      (board.run (inserts.flatMap Insert.steps)).1.Calm := by
  induction inserts generalizing board with
  | nil => exact ⟨rfl, calm⟩
  | cons insert rest induction =>
      obtain ⟨stored, settings, calmNext⟩ := run_insert calm insert
      obtain ⟨restStored, restCalm⟩ := induction calmNext
      rw [List.flatMap_cons, run_append]
      constructor
      · rw [restStored, stored, settings]
        rfl
      · exact restCalm

/-! ### Reading -/

theorem since_answered {board : Board Time} (wellformed : board.store.Wellformed)
    (indexAnswers : (board.conditions .ascending).failure = none)
    (recordsAnswer : (board.conditions .load).failure = none) (cutoff : DateTime) :
    (board.since cutoff).2 =
      .ok (board.store.snapshotsOf (board.store.index.filter (cutoff.epochMs ≤ ·.score))) := by
  have answers : ∀ command ∈ [Command.ascending, Command.load],
      (board.conditions command).failure = none :=
    List.forall_mem_cons.mpr ⟨indexAnswers, List.forall_mem_singleton.mpr recordsAnswer⟩
  exact read_found .window answers
    (Reading.outcome_since wellformed cutoff (2 * board.store.index.length))

theorem since_eq {board : Board Time} (wellformed : board.store.Wellformed) (calm : board.Calm)
    (cutoff : DateTime) :
    (board.since cutoff).2 =
      .ok (board.store.snapshotsOf (board.store.index.filter (cutoff.epochMs ≤ ·.score))) :=
  since_answered wellformed (calm .ascending (by decide)) (calm .load (by decide)) cutoff

/-! ### Survivors -/

structure Retained (retention : ℤ) (inserts : List Insert) (cutoff : DateTime)
    (found : List Snapshot) : Prop where
  ascending : found.Pairwise fun older newer => older.timestamp.instant < newer.timestamp.instant
  whole : ∀ snapshot ∈ found, snapshot.timestamp.instant = instantOfMs snapshot.ms
  once : (found.map Snapshot.ms).Nodup
  survivors : ∀ ms, ms ∈ found.map Snapshot.ms ↔
    cutoff.epochMs ≤ ms ∧ Insert.Survives retention inserts ms
  newest : ∀ snapshot ∈ found, ∀ last after, Insert.LastAt inserts snapshot.ms last after →
    snapshot.values.Perm last.snapshot.values
  /-- Where no trim can reach, everything comes back. -/
  complete : (inserts.map Insert.ms).Nodup →
    (∀ first ∈ inserts, ∀ second ∈ inserts, second.ms - first.ms ≤ 1000 * retention) →
    (∀ insert ∈ inserts, cutoff.epochMs ≤ insert.ms) →
    (found.map Snapshot.ms).Perm (inserts.map Insert.ms)

section

variable {retention ms : ℤ} {inserts : List Insert} {store : Store}

theorem values_of_perm {record : Record} {snapshot : Snapshot}
    (distinct : (names snapshot.values).Nodup) (noTimestamp : "timestamp" ∉ names snapshot.values)
    (perm : record.Perm snapshot.toRecord) : (Snapshot.valuesOf record).Perm snapshot.values := by
  rw [← Snapshot.values_of_to_record distinct noTimestamp]
  exact (perm.filter _).map _

/-- Every entry of the index has a snapshot, of its millisecond and with the values of the last insert
there. -/
theorem kept_snapshot (kept : Store.Kept retention inserts store)
    (regular : Insert.Regular inserts) {entry : IndexEntry} (indexed : entry ∈ store.index) :
    ∃ snapshot, store.snapshotAt? entry.score = some snapshot ∧
      snapshot.timestamp.instant = instantOfMs entry.score ∧
      ∀ last after, Insert.LastAt inserts entry.score last after →
        snapshot.values.Perm last.snapshot.values := by
  obtain ⟨last, after, isLast, _⟩ := (kept.indexed entry.score).mp ⟨entry, indexed, rfl⟩
  obtain ⟨record, found, _⟩ := kept.recorded _ _ _ isLast
  obtain ⟨wall, micros, _, decoded⟩ := Store.snapshot_at_record kept.wellformed
    (kept.wellformed.index.inRange entry indexed) found
  refine ⟨_, decoded, (utc_instant wall).trans micros, ?_⟩
  intro other following isOther
  obtain ⟨otherRecord, otherFound, perm⟩ := kept.recorded _ _ _ isOther
  have member := Insert.last_at_mem isOther
  rw [found, Option.some.injEq] at otherFound
  rw [← otherFound] at perm
  exact values_of_perm (regular.distinct other member) (regular.noTimestamp other member) perm

theorem ms_of_instant {snapshot : Snapshot}
    (whole : snapshot.timestamp.instant = instantOfMs ms) : snapshot.ms = ms :=
  epoch_ms_of_instant whole

theorem found_instant (wellformed : store.Wellformed) {entry : IndexEntry}
    (indexed : entry ∈ store.index) {snapshot : Snapshot}
    (found : store.snapshotAt? entry.score = some snapshot) :
    snapshot.timestamp.instant = instantOfMs entry.score ∧ snapshot.ms = entry.score := by
  have inRange := wellformed.index.inRange entry indexed
  have instant := Store.snapshot_at_instant wellformed inRange found
  exact ⟨instant, ms_of_instant instant⟩

theorem survives_of_span (member : ∃ insert ∈ inserts, insert.ms = ms)
    (span : ∀ first ∈ inserts, ∀ second ∈ inserts, second.ms - first.ms ≤ 1000 * retention) :
    Insert.Survives retention inserts ms := by
  obtain ⟨last, after, isLast⟩ := Insert.exists_last member
  refine ⟨last, after, isLast, ?_⟩
  obtain ⟨⟨before, split⟩, atMs, _⟩ := isLast
  intro insert inside reached
  have lastMember : last ∈ inserts := by
    rw [split]
    exact List.mem_append_right _ List.mem_cons_self
  have insertMember : insert ∈ inserts := by
    rw [split]
    exact List.mem_append_right _ inside
  have near := span last lastMember insert insertMember
  have far := reached.2
  rw [← atMs] at far
  omega

theorem snapshots_ms (kept : Store.Kept retention inserts store) (regular : Insert.Regular inserts)
    (entries : List IndexEntry) (indexed : ∀ entry ∈ entries, entry ∈ store.index) :
    (store.snapshotsOf entries).map Snapshot.ms = entries.map (·.score) := by
  induction entries with
  | nil => rfl
  | cons entry rest induction =>
      obtain ⟨snapshot, found, whole, _⟩ :=
        kept_snapshot kept regular (indexed entry List.mem_cons_self)
      have others := induction fun other member => indexed other (List.mem_cons_of_mem _ member)
      rw [Store.snapshotsOf] at others ⊢
      rw [List.filterMap_cons, found, List.map_cons, List.map_cons, others, ms_of_instant whole]

theorem snapshots_source (kept : Store.Kept retention inserts store) (regular : Insert.Regular inserts)
    {entries : List IndexEntry} (indexed : ∀ entry ∈ entries, entry ∈ store.index) :
    ∀ snapshot ∈ store.snapshotsOf entries,
      snapshot.timestamp.instant = instantOfMs snapshot.ms ∧
        ∀ last after, Insert.LastAt inserts snapshot.ms last after →
          snapshot.values.Perm last.snapshot.values := by
  intro snapshot member
  obtain ⟨entry, inside, found⟩ := List.mem_filterMap.mp member
  obtain ⟨other, otherFound, whole, newest⟩ := kept_snapshot kept regular (indexed entry inside)
  rw [found, Option.some.injEq] at otherFound
  rw [← otherFound] at whole newest
  rw [ms_of_instant whole]
  exact ⟨whole, newest⟩

theorem kept_retained (kept : Store.Kept retention inserts store) (regular : Insert.Regular inserts)
    (cutoff : DateTime) :
    Retained retention inserts cutoff
      (store.snapshotsOf (store.index.filter (cutoff.epochMs ≤ ·.score))) := by
  have indexed : ∀ entry ∈ store.index.filter (cutoff.epochMs ≤ ·.score), entry ∈ store.index := by
    intro entry member
    exact List.mem_of_mem_filter member
  have times := snapshots_ms kept regular _ indexed
  have source := snapshots_source kept regular indexed
  have sorted : ((store.snapshotsOf (store.index.filter (cutoff.epochMs ≤ ·.score))).map
      Snapshot.ms).Pairwise (· < ·) := by
    rw [times]
    exact List.pairwise_map.mpr (kept.wellformed.index.ascending.sublist List.filter_sublist)
  have members (ms : ℤ) : ms ∈ (store.snapshotsOf
      (store.index.filter (cutoff.epochMs ≤ ·.score))).map Snapshot.ms ↔
        cutoff.epochMs ≤ ms ∧ Insert.Survives retention inserts ms := by
    rw [times, ← kept.indexed, ← Index.holds_drop_below]
    exact List.mem_map
  constructor
  · apply (List.pairwise_map.mp sorted).imp_of_mem
    intro older newer olderMember newerMember before
    rw [(source older olderMember).1, (source newer newerMember).1]
    unfold instantOfMs
    omega
  · intro snapshot member
    exact (source snapshot member).1
  · exact sorted.imp fun before => before.ne
  · exact members
  · intro snapshot member
    exact (source snapshot member).2
  · intro distinct span reached
    apply (List.perm_ext_iff_of_nodup (sorted.imp fun before => before.ne) distinct).mpr
    intro ms
    rw [members]
    constructor
    · rintro ⟨_, last, after, isLast, _⟩
      rw [← isLast.2.1]
      exact List.mem_map_of_mem (Insert.last_at_mem isLast)
    · intro member
      obtain ⟨insert, inside, atMs⟩ := List.mem_map.mp member
      rw [← atMs]
      exact ⟨reached insert inside, survives_of_span ⟨insert, inside, rfl⟩ span⟩

end

/-- A reading after any run of inserts into an empty store finds the survivors. -/
theorem since_finds_survivors (settings : BoardSettings) (positive : 1 ≤ settings.retention)
    (feeds : List String) (now : DateTime) (inserts : List Insert) (regular : Insert.Regular inserts)
    (cutoff : DateTime) :
    ∃ found,
      ((((start settings feeds now : Board Time).run (inserts.flatMap Insert.steps)).1.since
        cutoff).2 = .ok found) ∧
      Retained settings.retention inserts cutoff found := by
  have calm : (start settings feeds now : Board Time).Calm := fun _ _ => rfl
  obtain ⟨stored, calmAfter⟩ := run_inserts calm inserts
  have kept := Store.kept_run positive regular
  have wellformed := kept.wellformed
  change _ = Store.afterInserts settings.retention inserts at stored
  rw [← stored] at kept wellformed
  exact ⟨_, since_eq wellformed calmAfter cutoff, kept_retained kept regular cutoff⟩

/-- Out of order, a millisecond inserted twice, and a trim that fails. -/
def shuffledInserts : List Insert := [
  ⟨⟨⟨63840000060000000, by decide⟩, [("bitcoin", 1.5), ("ether", 0.1)]⟩, none⟩,
  ⟨⟨⟨63840000000000900, by decide⟩, [("bitcoin", 2.5), ("ether", 0.2)]⟩, none⟩,
  ⟨⟨⟨63840000061000000, by decide⟩, [("bitcoin", 3.5), ("ether", 0.3)]⟩, some "refused"⟩,
  ⟨⟨⟨63840000000000100, by decide⟩, [("ether", 0.4), ("bitcoin", 4.5)]⟩, none⟩]

theorem shuffled_inserts_regular : Insert.Regular shuffledInserts where
  distinct insert member := by
    fin_cases member <;> simp [names]
  noTimestamp insert member := by
    fin_cases member <;> simp [names]
  sameFeeds first firstMember second secondMember _ := by
    fin_cases firstMember <;> fin_cases secondMember <;> simp [names]

theorem since_finds_survivors_shuffled :
    ∃ found,
      ((((start ⟨60, 500, 1000⟩ ["bitcoin", "ether"] ⟨⟨0, by decide⟩, none⟩ : Board Rat).run
        (shuffledInserts.flatMap Insert.steps)).1.since
          ⟨⟨63840000000000999, by decide⟩, some Offset.utc⟩).2 = .ok found) ∧
      Retained 60 shuffledInserts ⟨⟨63840000000000999, by decide⟩, some Offset.utc⟩ found :=
  since_finds_survivors ⟨60, 500, 1000⟩ (by decide) ["bitcoin", "ether"] ⟨⟨0, by decide⟩, none⟩
    shuffledInserts shuffled_inserts_regular ⟨⟨63840000000000999, by decide⟩, some Offset.utc⟩

end Board
end PriceBoard
