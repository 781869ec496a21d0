import Mathlib.Logic.Relation
import Mathlib.Data.Int.Interval
import Mathlib.Data.Set.Card
import PriceBoard.Proofs.Store.Course

/-!
# Scanning a store in use

While a scan runs, snapshots are written, old index entries trimmed and records dropped, between its
commands and during them. A scan goes down the milliseconds of the calendar and not down positions of
the index, so whatever comes and goes, it takes no millisecond twice, and passes none that stays.
-/
namespace PriceBoard

open PriceBoard.DateTime

/-! ### A store in use -/

namespace Store

inductive Becomes : Store → Store → Prop where
  | write (store : Store) (retention : ℤ) (snapshot : Snapshot)
      (noTimestamp : "timestamp" ∉ names snapshot.values) :
      Becomes store (store.write retention snapshot)
  | trim (store : Store) (retention newest : ℤ) : Becomes store (store.trim retention newest)
  | dropRecord (store : Store) (ms : ℤ) : Becomes store (store.dropRecord ms)

theorem reachable_of_changes {before after : Store}
    (changes : Relation.ReflTransGen Becomes before after) (reachable : before.Reachable) :
    after.Reachable := by
  induction changes with
  | refl => exact reachable
  | tail _ change induction =>
      cases change with
      | write retention snapshot noTimestamp => exact .write retention snapshot noTimestamp induction
      | trim retention newest => exact .trim retention newest induction
      | dropRecord ms => exact .dropRecord ms induction

/-- The states of a store in use, with any number of changes from each to the next. -/
structure Drifts (states : ℕ → Store) : Prop where
  begins : (states 0).Reachable
  changes : ∀ moment, Relation.ReflTransGen Becomes (states moment) (states (moment + 1))

theorem Drifts.reachable {states : ℕ → Store} (drifts : Drifts states) (moment : ℕ) :
    (states moment).Reachable := by
  induction moment with
  | zero => exact drifts.begins
  | succ moment induction => exact reachable_of_changes (drifts.changes moment) induction

theorem Drifts.wellformed {states : ℕ → Store} (drifts : Drifts states) (moment : ℕ) :
    (states moment).Wellformed :=
  reachable_wellformed (drifts.reachable moment)

/-- What a command sees between two moments: the index of one moment, and each record at a moment of its
own. -/
structure Seen (states : ℕ → Store) (first last : ℕ) (view : Store) : Prop where
  index : ∃ moment, first ≤ moment ∧ moment ≤ last ∧ view.index = (states moment).index
  record : ∀ ms, ∃ moment, first ≤ moment ∧ moment ≤ last ∧
    view.record? ms = (states moment).record? ms

/-- All the time the millisecond is in the index and its record is that of the snapshot. -/
def Steady (states : ℕ → Store) (first last : ℕ) (ms : ℤ) (snapshot : Snapshot) : Prop :=
  ∀ moment, first ≤ moment → moment ≤ last →
    (states moment).index.Holds ms ∧ (states moment).snapshotAt? ms = some snapshot

variable {states : ℕ → Store} {first last : ℕ} {view : Store}

theorem Seen.wellformed (seen : Seen states first last view) (drifts : Drifts states) :
    view.Wellformed where
  index := by
    obtain ⟨moment, _, _, same⟩ := seen.index
    rw [same]
    exact (drifts.wellformed moment).index
  records ms record found := by
    obtain ⟨moment, _, _, same⟩ := seen.record ms
    exact (drifts.wellformed moment).records ms record (same.symm.trans found)

theorem Seen.ordered (seen : Seen states first last view) : first ≤ last := by
  obtain ⟨_, reached, passed, _⟩ := seen.index
  exact reached.trans passed

variable {ms : ℤ} {snapshot : Snapshot}

theorem Steady.within (steady : Steady states first last ms snapshot) {later earlier : ℕ}
    (fromLater : first ≤ later) (toEarlier : earlier ≤ last) :
    Steady states later earlier ms snapshot :=
  fun moment reached passed => steady moment (fromLater.trans reached) (passed.trans toEarlier)

theorem Steady.held (steady : Steady states first last ms snapshot)
    (seen : Seen states first last view) : view.index.Holds ms := by
  obtain ⟨moment, reached, passed, same⟩ := seen.index
  rw [same]
  exact (steady moment reached passed).1

theorem Steady.found (steady : Steady states first last ms snapshot)
    (seen : Seen states first last view) : view.snapshotAt? ms = some snapshot := by
  obtain ⟨moment, reached, passed, same⟩ := seen.record ms
  rw [snapshotAt?, same]
  exact (steady moment reached passed).2

/-- A steady snapshot is there at some moment in the calendar. -/
theorem Steady.in_range (drifts : Drifts states) (steady : Steady states first last ms snapshot)
    (ordered : first ≤ last) : MsInRange ms := by
  obtain ⟨⟨entry, inside, rfl⟩, _⟩ := steady first le_rfl ordered
  exact (drifts.wellformed first).index.inRange entry inside

theorem Steady.instant (drifts : Drifts states) (steady : Steady states first last ms snapshot)
    (ordered : first ≤ last) : snapshot.timestamp.instant = instantOfMs ms :=
  snapshot_at_instant (drifts.wellformed first) (steady.in_range drifts ordered)
    (steady first le_rfl ordered).2

end Store

/-- A host that answers each command with what the store in use holds while the command runs. -/
def Host.Follows {Time World : Type} (host : Host Time World) (deadline : Option Time)
    (states : ℕ → Store) (moment : World → ℕ) : Prop :=
  ∀ command world, ∃ after, host.issue deadline command world = (after, .answered) ∧
    Store.Seen states (moment world) (moment after) (host.store after)

/-! ### The cursor -/

/-- The milliseconds of the calendar that a scan may still come to. -/
def Index.Limit.ahead (high : Index.Limit) : Set ℤ := {ms | MsInRange ms ∧ high.admits ms = true}

theorem Index.Limit.ahead_finite (high : Index.Limit) : high.ahead.Finite := by
  apply (Set.finite_Icc (-(10 : ℤ) ^ 15) (10 ^ 15)).subset
  rintro ms ⟨⟨low, below⟩, _⟩
  unfold instantOfMs epochMicros at low below
  unfold microsPerDay at low below
  unfold dayLimit at below
  exact ⟨by omega, by omega⟩

/-- A cursor that moves below an entry it has come to leaves fewer milliseconds ahead. -/
theorem Index.Limit.ahead_before {high : Index.Limit} {ms : ℤ} (inRange : MsInRange ms)
    (admitted : high.admits ms = true) : (before ms).ahead.ncard < high.ahead.ncard := by
  apply Set.ncard_lt_ncard _ high.ahead_finite
  constructor
  · rintro other ⟨otherInRange, below⟩
    exact ⟨otherInRange, admits_of_lt admitted (of_decide_eq_true below)⟩
  · intro same
    obtain ⟨_, below⟩ := same ⟨inRange, admitted⟩
    exact absurd (of_decide_eq_true below) (lt_irrefl ms)

namespace Scan

def Admits (scan : Scan) (ms : ℤ) : Prop :=
  scan.high.admits ms = true ∧ scan.low.all (· ≤ ms) = true

/-- What has been found is accepted and in order, the newest first, and above all that is ahead. -/
structure Orderly (scan : Scan) : Prop where
  descending : scan.found.Pairwise fun newer older =>
    older.timestamp.instant < newer.timestamp.instant
  accepted : ∀ snapshot ∈ scan.found, scan.predicate.accepts snapshot = true
  above : ∀ snapshot ∈ scan.found, ∀ ms, scan.high.admits ms = true →
    instantOfMs ms < snapshot.timestamp.instant
  room : scan.found.length ≤ scan.limit

/-- What has been found after a batch that sees its page in one store and loads it from another. -/
def foundAfter (scan : Scan) (view loads : Store) : List Snapshot :=
  (scan.found ++ (loads.snapshotsOf (scan.page view)).filter scan.predicate.accepts).take scan.limit

def afterBatch (scan : Scan) (view loads : Store) (last : IndexEntry) : Scan :=
  { scan with high := .before last.score, found := scan.foundAfter view loads }

variable {scan : Scan} {view loads : Store} {last : IndexEntry}

theorem page_admitted {entry : IndexEntry} (member : entry ∈ scan.page view) :
    scan.Admits entry.score := by
  obtain ⟨_, inside⟩ := List.mem_filter.mp (List.mem_reverse.mp (List.mem_of_mem_take member))
  exact Bool.and_eq_true_iff.mp inside

theorem page_descending (wellformed : view.Wellformed) :
    (scan.page view).Pairwise fun newer older => older.score < newer.score :=
  (Index.slice_descending wellformed.index.ascending).sublist (List.take_sublist _ _)

theorem page_last_le (wellformed : view.Wellformed) (isLast : last ∈ (scan.page view).getLast?)
    {entry : IndexEntry} (member : entry ∈ scan.page view) : last.score ≤ entry.score := by
  obtain ⟨before, split⟩ := List.getLast?_eq_some_iff.mp isLast
  have descending := @page_descending scan view wellformed
  rw [split] at descending member
  rcases List.mem_append.mp member with earlier | same
  · exact ((List.pairwise_append.mp descending).2.2 entry earlier last List.mem_cons_self).le
  · rw [List.mem_singleton.mp same]

/-- A snapshot that a batch loads is at the instant of one of its entries. -/
theorem loaded_instant (indexed : view.Wellformed) (stored : loads.Wellformed) {snapshot : Snapshot}
    (member : snapshot ∈ loads.snapshotsOf (scan.page view)) :
    ∃ entry ∈ scan.page view, snapshot.timestamp.instant = instantOfMs entry.score := by
  obtain ⟨entry, inside, found⟩ := List.mem_filterMap.mp member
  have inRange := indexed.index.inRange entry (mem_of_mem_page inside)
  exact ⟨entry, inside, Store.snapshot_at_instant stored inRange found⟩

section

variable (orderly : scan.Orderly) (indexed : view.Wellformed) (stored : loads.Wellformed)
include orderly indexed stored

theorem batch_descending :
    (scan.found ++ (loads.snapshotsOf (scan.page view)).filter scan.predicate.accepts).Pairwise
      fun newer older => older.timestamp.instant < newer.timestamp.instant := by
  apply List.pairwise_append.mpr
  refine ⟨orderly.descending, ?_, ?_⟩
  · apply List.Pairwise.filter
    exact Store.snapshots_descending stored
      (fun entry member => indexed.index.inRange entry (mem_of_mem_page member))
      (page_descending indexed)
  · intro newer newerFound older olderLoaded
    obtain ⟨entry, inside, instant⟩ :=
      loaded_instant indexed stored (List.mem_of_mem_filter olderLoaded)
    rw [instant]
    exact orderly.above newer newerFound entry.score (page_admitted inside).1

theorem after_batch_orderly (isLast : last ∈ (scan.page view).getLast?) :
    (scan.afterBatch view loads last).Orderly where
  descending := (batch_descending orderly indexed stored).sublist (List.take_sublist _ _)
  accepted snapshot member := by
    rcases List.mem_append.mp (List.mem_of_mem_take member) with before | loaded
    · exact orderly.accepted snapshot before
    · exact (List.mem_filter.mp loaded).2
  above snapshot member ms below := by
    have lower : ms < last.score := of_decide_eq_true below
    rcases List.mem_append.mp (List.mem_of_mem_take member) with before | loaded
    · have admitted := (page_admitted (List.mem_of_getLast? isLast)).1
      exact orderly.above snapshot before ms (Index.admits_of_lt admitted lower)
    · obtain ⟨entry, inside, instant⟩ :=
        loaded_instant indexed stored (List.mem_of_mem_filter loaded)
      have above := page_last_le indexed isLast inside
      rw [instant]
      unfold instantOfMs
      omega
  room := List.length_take_le _ _

end

theorem mem_slice {entry : IndexEntry} (member : entry ∈ view.index)
    (admitted : scan.Admits entry.score) : entry ∈ view.index.slice scan.high scan.low :=
  List.mem_reverse.mpr (List.mem_filter.mpr ⟨member, Bool.and_eq_true_iff.mpr admitted⟩)

/-- An entry that the scan admits is in the next batch, or below the last entry of it. -/
theorem mem_page_or_below (wellformed : view.Wellformed)
    (isLast : last ∈ (scan.page view).getLast?) {entry : IndexEntry} (member : entry ∈ view.index)
    (admitted : scan.Admits entry.score) : entry ∈ scan.page view ∨ entry.score < last.score := by
  have inside := mem_slice member admitted
  rw [← List.take_append_drop (view.index.batchLength scan.batch)
    (view.index.slice scan.high scan.low)] at inside
  rcases List.mem_append.mp inside with taken | left
  · exact .inl taken
  · rw [← Index.slice_before wellformed.index.ascending isLast] at left
    obtain ⟨_, below⟩ := List.mem_filter.mp (List.mem_reverse.mp left)
    exact .inr (of_decide_eq_true (Bool.and_eq_true_iff.mp below).1)

theorem page_nonempty (nonzero : scan.batch ≠ 0) {entry : IndexEntry} (member : entry ∈ view.index)
    (admitted : scan.Admits entry.score) : scan.page view ≠ [] := by
  have inside := mem_slice member admitted
  have positive := Index.batch_length_pos nonzero (List.ne_nil_of_mem inside)
  intro ended
  rcases List.take_eq_nil_iff.mp ended with zero | nothing
  · omega
  · exact List.ne_nil_of_mem inside nothing

end Scan

/-! ### What is found -/

/-- The snapshot is found, or as many as are wanted are found and all are newer. -/
def Covers (limit : ℕ) (found : List Snapshot) (snapshot : Snapshot) : Prop :=
  snapshot ∈ found ∨
    found.length = limit ∧ ∀ newer ∈ found, snapshot.timestamp.instant < newer.timestamp.instant

theorem covers_take {all : List Snapshot} {snapshot : Snapshot} (limit : ℕ)
    (descending : all.Pairwise fun newer older => older.timestamp.instant < newer.timestamp.instant)
    (member : snapshot ∈ all) : Covers limit (all.take limit) snapshot := by
  rw [← List.take_append_drop limit all] at member descending
  rcases List.mem_append.mp member with taken | left
  · exact .inl taken
  · have longer : limit < all.length := by
      have nonempty := List.length_pos_of_mem left
      rw [List.length_drop] at nonempty
      omega
    refine .inr ⟨List.length_take_of_le longer.le, fun newer taken => ?_⟩
    exact (List.pairwise_append.mp descending).2.2 newer taken snapshot left

namespace Scan

variable {scan : Scan} {view loads : Store} {last : IndexEntry} {ms : ℤ} {snapshot : Snapshot}

theorem Orderly.covers_ahead (orderly : scan.Orderly) (full : scan.limit ≤ scan.found.length)
    (instant : snapshot.timestamp.instant = instantOfMs ms) (admitted : scan.Admits ms) :
    Covers scan.limit scan.found snapshot := by
  refine .inr ⟨le_antisymm orderly.room full, fun newer member => ?_⟩
  rw [instant]
  exact orderly.above newer member ms admitted.1

theorem found_subset_after (orderly : scan.Orderly) (view loads : Store) :
    scan.found ⊆ scan.foundAfter view loads := by
  intro snapshot member
  rw [foundAfter, List.take_append, List.take_of_length_le orderly.room]
  exact List.mem_append_left _ member

end Scan

structure Scan.Finds (scan : Scan) (states : ℕ → Store) (first last : ℕ) (found : List Snapshot) :
    Prop where
  ordered : first ≤ last
  keeps : scan.found ⊆ found
  descending : found.Pairwise fun newer older => older.timestamp.instant < newer.timestamp.instant
  accepted : ∀ snapshot ∈ found, scan.predicate.accepts snapshot = true
  room : found.length ≤ scan.limit
  covers : ∀ ms snapshot, Store.Steady states first last ms snapshot →
    scan.predicate.accepts snapshot = true → scan.Admits ms → Covers scan.limit found snapshot

namespace Scan

variable {scan : Scan} {states : ℕ → Store} {first middle late : ℕ} {view loads : Store}
  {last : IndexEntry} (orderly : scan.Orderly) (indexSeen : Store.Seen states first middle view)
include orderly indexSeen

/-- Where no entry is left, nothing steady is ahead. -/
theorem finds_at_end (nonzero : scan.batch ≠ 0) (ended : scan.page view = []) :
    scan.Finds states first middle scan.found where
  ordered := indexSeen.ordered
  keeps := List.Subset.refl _
  descending := orderly.descending
  accepted := orderly.accepted
  room := orderly.room
  covers ms snapshot steady _ admitted := by
    obtain ⟨entry, member, rfl⟩ := steady.held indexSeen
    exact absurd ended (page_nonempty nonzero member admitted)

variable (drifts : Store.Drifts states) (recordsSeen : Store.Seen states middle late loads)
  (isLast : last ∈ (scan.page view).getLast?)
include drifts recordsSeen isLast

/-- Of what is steadily there and ahead, a batch covers a part and leaves the rest ahead. -/
theorem after_batch_covers {ms : ℤ} {snapshot : Snapshot}
    (steady : Store.Steady states first late ms snapshot)
    (accepted : scan.predicate.accepts snapshot = true) (admitted : scan.Admits ms) :
    Covers scan.limit (scan.foundAfter view loads) snapshot ∨
      (scan.afterBatch view loads last).Admits ms := by
  have indexed := indexSeen.wellformed drifts
  have stored := recordsSeen.wellformed drifts
  have found := (steady.within indexSeen.ordered le_rfl).found recordsSeen
  obtain ⟨entry, member, rfl⟩ := (steady.within le_rfl recordsSeen.ordered).held indexSeen
  rcases mem_page_or_below indexed isLast member admitted with inside | below
  · have loaded : snapshot ∈ loads.snapshotsOf (scan.page view) :=
      List.mem_filterMap.mpr ⟨entry, inside, found⟩
    exact .inl (covers_take scan.limit (batch_descending orderly indexed stored)
      (List.mem_append_right _ (List.mem_filter.mpr ⟨loaded, accepted⟩)))
  · exact .inr ⟨decide_eq_true below, admitted.2⟩

/-- A batch that makes the scan full leaves only older ones ahead. -/
theorem finds_when_full
    (full : scan.limit ≤ (scan.foundAfter view loads).length) :
    scan.Finds states first late (scan.foundAfter view loads) := by
  have after := after_batch_orderly orderly (indexSeen.wellformed drifts)
    (recordsSeen.wellformed drifts) isLast
  have ordered := indexSeen.ordered.trans recordsSeen.ordered
  refine ⟨ordered, found_subset_after orderly _ _, after.descending, after.accepted,
    after.room, fun ms snapshot steady accepted admitted => ?_⟩
  rcases after_batch_covers orderly indexSeen drifts recordsSeen isLast steady accepted admitted with
    covered | ahead
  · exact covered
  · exact after.covers_ahead full (steady.instant drifts ordered) ahead

/-- A batch that leaves room passes on what is ahead to the rest of the scan. -/
theorem finds_after_batch {final : ℕ} {found : List Snapshot}
    (short : (scan.foundAfter view loads).length < scan.limit)
    (rest : (scan.afterBatch view loads last).Finds states late final found) :
    scan.Finds states first final found := by
  have ordered := indexSeen.ordered.trans recordsSeen.ordered
  refine ⟨ordered.trans rest.ordered,
    List.Subset.trans (found_subset_after orderly _ _) rest.keeps, rest.descending,
    rest.accepted, rest.room, fun ms snapshot steady accepted admitted => ?_⟩
  rcases after_batch_covers orderly indexSeen drifts recordsSeen isLast
    (steady.within le_rfl rest.ordered) accepted admitted with (inside | ⟨filled, _⟩) | ahead
  · exact .inl (rest.keeps inside)
  · exact absurd filled short.ne
  · exact rest.covers ms snapshot (steady.within ordered le_rfl) accepted ahead

end Scan

/-! ### The run -/

namespace Reading

variable {Time World : Type} {host : Host Time World} {deadline : Option Time} {world ended : World}
  {reading next : Reading} {found : List Snapshot}

def Ends (host : Host Time World) (deadline : Option Time) (world : World) (reading : Reading)
    (ended : World) (found : List Snapshot) : Prop :=
  ∃ needed, ∀ budget, needed ≤ budget → run host deadline budget world reading = (ended, .found found)

section

variable {after : World} (issued : host.issue deadline reading.command world = (after, .answered))
include issued

theorem ends_done (advanced : reading.advance (host.store after) = .ok (.done found)) :
    Ends host deadline world reading after found := by
  refine ⟨1, fun budget enough => ?_⟩
  obtain ⟨fuel, rfl⟩ := Nat.exists_eq_add_of_le' enough
  rw [run, issued]
  simp only [advanced]

theorem ends_more (advanced : reading.advance (host.store after) = .ok (.more next))
    (rest : Ends host deadline after next ended found) :
    Ends host deadline world reading ended found := by
  obtain ⟨needed, ends⟩ := rest
  refine ⟨needed + 1, fun budget enough => ?_⟩
  obtain ⟨fuel, rfl⟩ := Nat.exists_eq_add_of_le' ((Nat.le_add_left 1 needed).trans enough)
  rw [run, issued]
  simp only [advanced]
  exact ends fuel (by omega)

end

end Reading

namespace Reading

variable {Time World : Type} {host : Host Time World} {deadline : Option Time} {states : ℕ → Store}
  {moment : World → ℕ}

/-- The records of a page are loaded from the store as it has become. -/
theorem advance_page {scan : Scan} {view loads : Store} {last : IndexEntry}
    (indexed : view.Wellformed) (stored : loads.Wellformed) (aware : scan.predicate.isAware = true)
    (orderly : scan.Orderly) :
    advance loads (.scanRecords { scan with high := .before last.score }
        (Index.members (scan.page view))) =
      if scan.limit ≤ (scan.foundAfter view loads).length then
        .ok (.done (scan.foundAfter view loads))
      else .ok (.more (.scanIndex (scan.afterBatch view loads last))) :=
  @advance_records_named loads { scan with high := .before last.score } stored aware orderly.room
    (scan.page view)
    (fun _ member => indexed.index.entry_named (Scan.mem_of_mem_page member)) _ rfl

/-- However the store changes, a scan ends: each batch moves its cursor down the calendar. -/
theorem scan_ends (drifts : Store.Drifts states) (follows : host.Follows deadline states moment)
    {scan : Scan} (aware : scan.predicate.isAware = true) (nonzero : scan.batch ≠ 0)
    (orderly : scan.Orderly) (world : World) :
    ∃ ended found, Ends host deadline world (.scanIndex scan) ended found ∧
      scan.Finds states (moment world) (moment ended) found := by
  generalize measure : scan.high.ahead.ncard = ahead
  induction ahead using Nat.strong_induction_on generalizing scan world with
  | _ ahead induction =>
      obtain ⟨paused, indexIssued, indexSeen⟩ := follows .descending world
      have indexed := indexSeen.wellformed drifts
      by_cases atEnd : scan.page (host.store paused) = []
      · exact ⟨paused, scan.found, ends_done indexIssued (advance_index_end atEnd),
          Scan.finds_at_end orderly indexSeen nonzero atEnd⟩
      · have isLast := List.getLast_mem_getLast? atEnd
        generalize (scan.page (host.store paused)).getLast atEnd = last at isLast
        obtain ⟨after, recordsIssued, recordsSeen⟩ := follows .load paused
        have stored := recordsSeen.wellformed drifts
        have index := advance_index indexed isLast
        have records := @advance_page scan _ _ last indexed stored aware orderly
        by_cases full : scan.limit ≤ (scan.foundAfter (host.store paused) (host.store after)).length
        · rw [if_pos full] at records
          exact ⟨after, _, ends_more indexIssued index (ends_done recordsIssued records),
            Scan.finds_when_full orderly indexSeen drifts recordsSeen isLast full⟩
        · rw [if_neg full] at records
          have inside := List.mem_of_getLast? isLast
          have inRange := indexed.index.inRange last (Scan.mem_of_mem_page inside)
          have fewer := Index.Limit.ahead_before inRange (Scan.page_admitted inside).1
          obtain ⟨ended, found, ends, finds⟩ := @induction _ (measure ▸ fewer)
            (scan.afterBatch (host.store paused) (host.store after) last) aware nonzero
            (Scan.after_batch_orderly orderly indexed stored isLast) after rfl
          exact ⟨ended, found, ends_more indexIssued index (ends_more recordsIssued records ends),
            Scan.finds_after_batch orderly indexSeen drifts recordsSeen isLast (not_le.mp full) finds⟩

/-! ### The search -/

/-- The scan that a search begins with. -/
theorem first_orderly (predicate : Predicate) (limit : ℕ) (batch : ℤ) (low : Option ℤ)
    (high : Index.Limit) : Scan.Orderly ⟨predicate, limit, batch, low, high, []⟩ where
  descending := List.Pairwise.nil
  accepted _ member := absurd member List.not_mem_nil
  above _ member := absurd member List.not_mem_nil
  room := Nat.zero_le _

end Reading

def Host.withBudget {Time World : Type} (host : Host Time World) (budget : ℕ) : Host Time World :=
  { host with budget := fun _ => budget }

theorem Reading.run_with_budget {Time World : Type} (host : Host Time World) (own : ℕ)
    (deadline : Option Time) (budget : ℕ) (world : World) (reading : Reading) :
    run (host.withBudget own) deadline budget world reading =
      run host deadline budget world reading := by
  induction budget generalizing world reading with
  | zero => rfl
  | succ budget induction =>
      simp only [run, induction]
      rfl

/-- While the store is in use, a search ends, with snapshots in strict order that the predicate accepts
and no more of them than are wanted. Whatever it accepts that is there all along is found, or else as
many as are wanted are found and all are newer. -/
theorem Reading.matching_while_in_use {Time World : Type} {host : Host Time World}
    {deadline : Option Time} {states : ℕ → Store} {moment : World → ℕ}
    (drifts : Store.Drifts states) (follows : host.Follows deadline states moment)
    {predicate : Predicate} (aware : predicate.isAware = true) {limit batch : ℤ} (wanted : 1 ≤ limit)
    (paged : 1 ≤ batch) (world : World) :
    ∃ progress ended found, Reading.matching predicate limit batch = .ok progress ∧
      (∃ needed, ∀ budget, needed ≤ budget →
        runProgress (host.withBudget budget) deadline world progress = (ended, .found found)) ∧
      (found.Pairwise fun newer older => older.timestamp.instant < newer.timestamp.instant) ∧
      found.Nodup ∧ found.length ≤ limit.toNat ∧
      (∀ snapshot ∈ found, predicate.holds snapshot = .ok true) ∧
      ∀ ms snapshot, Store.Steady states (moment world) (moment ended) ms snapshot →
        predicate.holds snapshot = .ok true → Covers limit.toNat found snapshot := by
  have sound := @Predicate.sound_of_aware ⟨⟨0, by decide⟩, []⟩ predicate aware
  obtain ⟨dead, checked⟩ := sound.checked
  obtain ⟨bounds, bounded⟩ := sound.bounded
  cases dead with
  | true =>
      refine ⟨.done [], world, [], begin_dead checked limit batch, ⟨0, fun _ _ => rfl⟩,
        List.Pairwise.nil, List.nodup_nil, Nat.zero_le _, fun _ member => absurd member
          List.not_mem_nil, fun ms snapshot _ holds => ?_⟩
      exact absurd holds (rejects_of_dead aware checked snapshot)
  | false =>
      have begins := begin_scan checked (not_le.mpr wanted) bounded batch
      have nonzero : batch ≠ 0 := by omega
      obtain ⟨ended, found, ⟨needed, ends⟩, finds⟩ := scan_ends drifts follows aware nonzero
        (first_orderly predicate limit.toNat batch (bounds.low.map (·.epochMs))
          (limitOf bounds.high)) world
      refine ⟨_, ended, found, begins, ⟨needed, fun budget enough => ?_⟩, finds.descending, ?_,
        finds.room, fun snapshot member => ?_, fun ms snapshot steady holds => ?_⟩
      · rw [runProgress, run_with_budget]
        exact ends budget enough
      · exact finds.descending.imp fun before => by
          rintro rfl
          exact lt_irrefl _ before
      · rw [Predicate.holds_eq_accepts aware, finds.accepted snapshot member]
      · have accepted : predicate.accepts snapshot = true := by
          rw [Predicate.accepts, holds]
        have instant := steady.instant drifts finds.ordered
        exact finds.covers ms snapshot steady accepted (bounds_hold_accepted aware bounded instant accepted)

def Host.through (states : ℕ → Store) : Host ℚ ℕ where
  clock moment := moment
  store := states
  issue _ _ moment := (moment + 1, .answered)
  budget _ := 0

theorem Host.through_follows (states : ℕ → Store) (deadline : Option ℚ) :
    (Host.through states).Follows deadline states id := by
  intro command moment
  have within : moment ≤ moment + 1 := Nat.le_succ moment
  exact ⟨moment + 1, rfl, ⟨moment + 1, within, le_rfl, rfl⟩,
    fun ms => ⟨moment + 1, within, le_rfl, rfl⟩⟩

/-- While a third snapshot is written, the record of the first is dropped, and then the index trimmed. -/
def threeWritten (first second third : Snapshot) : ℕ → Store
  | 0 => (Store.empty.write 86400 first).write 86400 second
  | 1 => (((Store.empty.write 86400 first).write 86400 second).write 86400 third).dropRecord first.ms
  | _ => ((((Store.empty.write 86400 first).write 86400 second).write 86400 third).dropRecord
      first.ms).trim 1 third.ms

theorem three_written_drifts {first second third : Snapshot}
    (firstNames : "timestamp" ∉ names first.values) (secondNames : "timestamp" ∉ names second.values)
    (thirdNames : "timestamp" ∉ names third.values) :
    Store.Drifts (threeWritten first second third) where
  begins := Store.Reachable.write 86400 second secondNames (.write 86400 first firstNames .empty)
  changes
    | 0 => .tail (.single (.write _ _ _ thirdNames)) (.dropRecord _ _)
    | 1 => .single (.trim _ _ _)
    | _ + 2 => .refl

theorem Reading.matching_while_third_is_written :
    ∃ states : ℕ → Store,
      states = threeWritten ⟨⟨63840000000000000, by decide⟩, [("bitcoin", 1.5)]⟩
        ⟨⟨63840000001000000, by decide⟩, [("bitcoin", 2.5)]⟩
        ⟨⟨63840000002000000, by decide⟩, [("bitcoin", 3.5)]⟩ ∧
      ∃ progress ended found,
        Reading.matching (.timeAfter ⟨⟨63840000000000001, by decide⟩, some Offset.utc⟩) 2 1 =
          .ok progress ∧
        (∃ needed, ∀ budget, needed ≤ budget →
          runProgress ((Host.through states).withBudget budget) none 0 progress =
            (ended, .found found)) ∧
        found.Nodup ∧ found.length ≤ 2 ∧
        ∀ ms snapshot, Store.Steady states 0 ended ms snapshot →
          Predicate.holds snapshot
            (.timeAfter ⟨⟨63840000000000001, by decide⟩, some Offset.utc⟩) = .ok true →
          Covers 2 found snapshot := by
  have noTimestamp (wall : WallTime) (value : Float) :
      "timestamp" ∉ names (Snapshot.mk wall [("bitcoin", value)]).values := by
    simp [names]
  obtain ⟨progress, ended, found, begins, ends, _, distinct, room, _, covers⟩ :=
    @matching_while_in_use ℚ ℕ _ none _ id
      (three_written_drifts (noTimestamp ⟨63840000000000000, by decide⟩ 1.5)
        (noTimestamp ⟨63840000001000000, by decide⟩ 2.5)
        (noTimestamp ⟨63840000002000000, by decide⟩ 3.5))
      (Host.through_follows _ none)
      (.timeAfter ⟨⟨63840000000000001, by decide⟩, some Offset.utc⟩) rfl 2 1 (by decide) (by decide) 0
  exact ⟨_, rfl, progress, ended, found, begins, ends, distinct, room, covers⟩

end PriceBoard
