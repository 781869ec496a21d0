import PriceBoard.Store.Reading
import PriceBoard.Proofs.Predicate.Soundness
import PriceBoard.Proofs.Store.Reachable

/-!
# One batch of a scan

A batch is the front of a slice of the index, and below its last entry lies the rest of the slice. The
snapshots of a batch that the predicate accepts are added to those found, up to the limit.
-/
namespace PriceBoard

open PriceBoard.DateTime

/-! ### Slices -/

namespace Index

/-- The entries between the ends, the newest first. -/
def slice (index : Index) (high : Limit) (low : Option ℤ) : List IndexEntry :=
  (index.filter fun entry => high.admits entry.score && low.all (· ≤ entry.score)).reverse

variable {index : Index} {high : Limit} {low : Option ℤ}

theorem mem_of_mem_slice {entry : IndexEntry} (member : entry ∈ index.slice high low) :
    entry ∈ index :=
  List.mem_of_mem_filter (List.mem_reverse.mp member)

theorem slice_length_le : (index.slice high low).length ≤ index.length := by
  rw [slice, List.length_reverse]
  exact List.length_filter_le _ _

/-- The most entries that a batch of this size takes: a negative size takes them all. -/
def batchLength (index : Index) (batch : ℤ) : ℕ := if batch < 0 then index.length else batch.toNat

theorem descending_eq (batch : ℤ) :
    index.descending high low batch =
      members ((index.slice high low).take (index.batchLength batch)) := by
  have whole : (members (index.filter fun entry =>
      high.admits entry.score && low.all (· ≤ entry.score))).reverse =
        members (index.slice high low) := List.map_reverse.symm
  rw [descending, whole, batchLength]
  split_ifs with negative
  · rw [List.take_of_length_le slice_length_le]
  · rw [members, members, List.map_take]

theorem batch_length_pos {batch : ℤ} (nonzero : batch ≠ 0)
    (nonempty : index.slice high low ≠ []) : 0 < index.batchLength batch := by
  have stored := (List.length_pos_iff.mpr nonempty).trans_le slice_length_le
  rw [batchLength]
  split_ifs
  · exact stored
  · omega

theorem slice_descending (ascending : index.Ascending) :
    (index.slice high low).Pairwise fun left right => right.score < left.score :=
  List.pairwise_reverse.mpr (ascending.sublist List.filter_sublist)

theorem admits_of_lt {score other : ℤ} (admitted : high.admits score = true) (below : other < score) :
    high.admits other = true := by
  cases high with
  | unbounded => rfl
  | upTo top => exact decide_eq_true (below.le.trans (of_decide_eq_true admitted))
  | before top => exact decide_eq_true (below.trans (of_decide_eq_true admitted))

/-- Below the last of the first entries are the other ones. -/
theorem filter_below_last {entries : List IndexEntry} {count : ℕ} {last : IndexEntry}
    (descending : entries.Pairwise fun left right => right.score < left.score)
    (isLast : last ∈ (entries.take count).getLast?) :
    entries.filter (·.score < last.score) = entries.drop count := by
  obtain ⟨before, split⟩ := List.getLast?_eq_some_iff.mp isLast
  have whole := List.take_append_drop count entries
  rw [split] at whole
  rw [← whole] at descending
  obtain ⟨firstDescending, _, across⟩ := List.pairwise_append.mp descending
  have noneBefore : (before ++ [last]).filter (·.score < last.score) = [] := by
    apply List.filter_eq_nil_iff.mpr
    intro entry member
    rw [decide_eq_true_iff, not_lt]
    rcases List.mem_append.mp member with inside | same
    · exact ((List.pairwise_append.mp firstDescending).2.2 entry inside last
        List.mem_cons_self).le
    · rw [List.mem_singleton.mp same]
  have allAfter : (entries.drop count).filter (·.score < last.score) = entries.drop count := by
    apply List.filter_eq_self.mpr
    intro entry member
    exact decide_eq_true (across last (List.mem_append_right _ List.mem_cons_self) entry member)
  calc
    entries.filter (·.score < last.score) =
        ((before ++ [last]) ++ entries.drop count).filter (·.score < last.score) := by rw [whole]
    _ = entries.drop count := by rw [List.filter_append, noneBefore, allAfter, List.nil_append]

theorem slice_before {count : ℕ} {last : IndexEntry} (ascending : index.Ascending)
    (isLast : last ∈ ((index.slice high low).take count).getLast?) :
    index.slice (.before last.score) low = (index.slice high low).drop count := by
  have member := List.mem_of_mem_take (List.mem_of_getLast? isLast)
  have admitted : high.admits last.score = true := by
    obtain ⟨_, inside⟩ := List.mem_filter.mp (List.mem_reverse.mp member)
    exact (Bool.and_eq_true_iff.mp inside).1
  rw [← filter_below_last (slice_descending ascending) isLast]
  rw [slice, slice, List.filter_reverse, List.filter_filter]
  congr 1
  apply List.filter_congr
  intro entry _
  rw [← Bool.and_assoc]
  congr 1
  rw [Limit.admits]
  by_cases below : entry.score < last.score
  · rw [decide_eq_true below, admits_of_lt admitted below]
    rfl
  · rw [decide_eq_false below]
    rfl

end Index

/-! ### Accepting -/

def Predicate.accepts (predicate : Predicate) (snapshot : Snapshot) : Bool :=
  match predicate.holds snapshot with
  | .ok accepted => accepted
  | .error _ => false

theorem Predicate.holds_eq_accepts {predicate : Predicate} (aware : predicate.isAware = true)
    (snapshot : Snapshot) : predicate.holds snapshot = .ok (predicate.accepts snapshot) := by
  obtain ⟨accepted, found⟩ := (@sound_of_aware snapshot predicate aware).decided
  rw [accepts, found]

theorem Scan.accept_eq {scan : Scan} (aware : scan.predicate.isAware = true)
    (room : scan.found.length ≤ scan.limit) (snapshots : List Snapshot) :
    scan.accept snapshots =
      .ok { scan with
        found := (scan.found ++ snapshots.filter scan.predicate.accepts).take scan.limit } := by
  induction snapshots generalizing scan with
  | nil =>
      rw [List.filter_nil, List.append_nil, List.take_of_length_le room]
      rfl
  | cons snapshot rest induction =>
      rw [accept]
      by_cases full : scan.limit ≤ scan.found.length
      · have exact : scan.found.length = scan.limit := le_antisymm room full
        rw [if_pos full, List.take_append_of_le_length full, ← exact, List.take_length]
        rw [exact]
      · rw [if_neg full, Predicate.holds_eq_accepts aware, List.filter_cons]
        cases scan.predicate.accepts snapshot with
        | false => exact induction aware room
        | true =>
            have longer : (scan.found ++ [snapshot]).length ≤ scan.limit := by
              rw [List.length_append, List.length_singleton]
              omega
            have rest := @induction { scan with found := scan.found ++ [snapshot] } aware longer
            simp only [List.append_assoc, List.singleton_append] at rest
            simpa using rest

/-! ### One command -/

/-- The snapshots of some entries, where their records are there. -/
def Store.snapshotsOf (store : Store) (entries : List IndexEntry) : List Snapshot :=
  entries.filterMap fun entry => store.snapshotAt? entry.score

/-- Each record that is there is decoded, and there is no other snapshot. -/
theorem Store.snapshots_decoded {store : Store} (wellformed : store.Wellformed)
    (entries : List IndexEntry) (indexed : ∀ entry ∈ entries, entry ∈ store.index) :
    List.Forall₂ (fun record snapshot => Snapshot.ofRecord record = .ok snapshot)
      (entries.filterMap fun entry => store.record? entry.score) (store.snapshotsOf entries) := by
  induction entries with
  | nil => exact .nil
  | cons entry rest induction =>
      obtain ⟨first, others⟩ := List.forall_mem_cons.mp indexed
      have decoded := induction others
      rw [snapshotsOf] at decoded ⊢
      rw [List.filterMap_cons, List.filterMap_cons]
      cases stored : store.record? entry.score with
      | none =>
          have gone : store.snapshotAt? entry.score = none := by rw [snapshotAt?, stored]; rfl
          rw [gone]
          exact decoded
      | some record =>
          obtain ⟨wall, _, read, found⟩ :=
            snapshot_at_record wellformed (wellformed.index.inRange entry first) stored
          rw [found]
          exact .cons read decoded

def Scan.page (store : Store) (scan : Scan) : List IndexEntry :=
  (store.index.slice scan.high scan.low).take (store.index.batchLength scan.batch)

variable {store : Store} {scan : Scan}

theorem Scan.descending_eq_page (scan : Scan) (store : Store) :
    store.index.descending scan.high scan.low scan.batch = Index.members (scan.page store) :=
  Index.descending_eq scan.batch

theorem Scan.mem_of_mem_page {entry : IndexEntry} (member : entry ∈ scan.page store) :
    entry ∈ store.index :=
  Index.mem_of_mem_slice (List.mem_of_mem_take member)

namespace Reading

theorem advance_index_end (ended : scan.page store = []) :
    advance store (.scanIndex scan) = .ok (.done scan.found) := by
  simp only [advance, scan.descending_eq_page store, ended, Index.members, List.map_nil]

theorem advance_index (wellformed : store.Wellformed) {last : IndexEntry}
    (isLast : last ∈ (scan.page store).getLast?) :
    advance store (.scanIndex scan) = .ok (.more (.scanRecords
      { scan with high := .before last.score } (Index.members (scan.page store)))) := by
  have inside := Scan.mem_of_mem_page (List.mem_of_getLast? isLast)
  have lastMember : (Index.members (scan.page store)).getLast? = some last.member := by
    rw [Index.members, List.getLast?_map, isLast]
    rfl
  have read : Store.memberMs last.member = .ok last.score := by
    rw [Store.memberMs, wellformed.index.named last inside,
      read_ms (wellformed.index.inRange last inside)]
  simp only [advance, scan.descending_eq_page store]
  generalize Index.members (scan.page store) = members at lastMember
  cases members with
  | nil => simp at lastMember
  | cons first rest =>
      have lastIs : (first :: rest).getLast (List.cons_ne_nil first rest) = last.member :=
        (List.getLast_eq_iff_getLast?_eq_some _).mpr lastMember
      simp only [lastIs, read]
      rfl

/-- The entries may have left the index since they were read. -/
theorem advance_records_named (wellformed : store.Wellformed)
    (aware : scan.predicate.isAware = true) (room : scan.found.length ≤ scan.limit)
    {entries : List IndexEntry} (named : ∀ entry ∈ entries, entry.Named) {found : List Snapshot}
    (foundIs : (scan.found ++ (store.snapshotsOf entries).filter scan.predicate.accepts).take
      scan.limit = found) :
    advance store (.scanRecords scan (Index.members entries)) =
      if scan.limit ≤ found.length then .ok (.done found)
      else .ok (.more (.scanIndex { scan with found })) := by
  have loaded : store.load (Index.members entries) = .ok (store.snapshotsOf entries) :=
    Store.load_named wellformed entries named
  have accepted : (store.load (Index.members entries)).bind scan.accept = .ok { scan with found } := by
    rw [loaded, ← foundIs]
    exact Scan.accept_eq aware room (store.snapshotsOf entries)
  simp only [advance, accepted]

theorem advance_records (wellformed : store.Wellformed) (aware : scan.predicate.isAware = true)
    (room : scan.found.length ≤ scan.limit) {entries : List IndexEntry}
    (indexed : ∀ entry ∈ entries, entry ∈ store.index) {found : List Snapshot}
    (foundIs : (scan.found ++ (store.snapshotsOf entries).filter scan.predicate.accepts).take
      scan.limit = found) :
    advance store (.scanRecords scan (Index.members entries)) =
      if scan.limit ≤ found.length then .ok (.done found)
      else .ok (.more (.scanIndex { scan with found })) :=
  advance_records_named wellformed aware room
    (fun entry member => wellformed.index.entry_named (indexed entry member)) foundIs

end Reading

end PriceBoard
