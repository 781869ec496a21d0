import PriceBoard.Proofs.Board.Steps
import Mathlib.Tactic.FinCases

/-!
# Entries of the index and their records

The key of a record, the member and the score of its entry and the time that the record itself holds are
written apart, merged with what was there, trimmed by score and dropped alone. Through any such runs they
stay the same millisecond, and a write that fails leaves records and index alone.
-/
namespace PriceBoard

open PriceBoard.Decimal

/-- Every entry of the index stands for one millisecond, and so does its record if it is there. -/
structure Store.Agrees (store : Store) : Prop where
  named : ∀ entry ∈ store.index, entry.member = intText entry.score
  read : ∀ entry ∈ store.index, Store.memberMs entry.member = .ok entry.score
  alone : (store.index.map (·.score)).Nodup
  timestamp : ∀ entry ∈ store.index, ∀ record, store.record? entry.score = some record →
    record.lookup "timestamp" = some entry.member
  decodes : ∀ entry ∈ store.index, ∀ record, store.record? entry.score = some record →
    ∃ snapshot, Snapshot.ofRecord record = .ok snapshot ∧ snapshot.ms = entry.score

theorem Store.agrees_of_wellformed {store : Store} (wellformed : store.Wellformed) :
    store.Agrees where
  named := wellformed.index.named
  read entry indexed := by
    obtain ⟨text, inRange⟩ := wellformed.index.entry_named indexed
    rw [memberMs, text, read_ms inRange]
  alone := by
    apply List.Pairwise.map _ _ wellformed.index.ascending
    exact fun _ _ below => below.ne
  timestamp entry indexed record found := by
    rw [wellformed.index.named entry indexed]
    exact (wellformed.records _ record found).timestamp
  decodes entry indexed record found := by
    obtain ⟨wall, micros, decoded, _⟩ :=
      snapshot_at_record wellformed (wellformed.index.inRange entry indexed) found
    exact ⟨_, decoded, DateTime.epoch_ms_of_instant ((DateTime.utc_instant wall).trans micros)⟩

/-- On a board of these feeds, the step writes no snapshot with a feed named like the time. -/
def Step.Unconfused {Time : Type} (feeds : List String) : Step Time → Prop
  | .insert snapshot => "timestamp" ∉ names snapshot.values
  | .tick => "timestamp" ∉ feeds
  | _ => True

namespace Board

variable {Time : Type} [Timeline Time] {board : Board Time} {snapshot : Snapshot} {step : Step Time}

/-! ### One step -/

theorem insert_wellformed (wellformed : board.store.Wellformed)
    (noTimestamp : "timestamp" ∉ names snapshot.values) :
    (board.insert snapshot).1.store.Wellformed := by
  cases failure : (board.conditions .write).failure with
  | none =>
      rw [(insert_written failure).1.store]
      exact Store.after_insert_wellformed wellformed _ noTimestamp
  | some message =>
      rw [(insert_refused failure).1.store]
      exact wellformed

theorem tick_wellformed (wellformed : board.store.Wellformed)
    (noTimestamp : "timestamp" ∉ board.quotes.feeds) : board.tick.1.store.Wellformed := by
  cases tick_ends board with
  | untaken nothing rests =>
      rw [rests.store]
      exact wellformed
  | refused refused rests =>
      rw [rests.store]
      exact wellformed
  | written snapshot taken writes rests =>
      rw [rests.store]
      apply Store.after_insert_wellformed wellformed
      rw [names, Feed.names_take taken]
      exact noTimestamp

theorem step_wellformed (wellformed : board.store.Wellformed)
    (unconfused : step.Unconfused board.quotes.feeds) : (board.step step).1.store.Wellformed := by
  by_cases writes : step.Writes
  · cases step with
    | tick => exact tick_wellformed wellformed unconfused
    | insert snapshot => exact insert_wellformed wellformed unconfused
    | forget ms => exact Store.drop_record_wellformed wellformed ms
    | _ => exact writes.elim
  · rw [step_store board writes]
    exact wellformed

/-- A write that fails changes neither the records nor the index. -/
theorem store_of_failed_write (failed : (board.conditions .write).failure ≠ none) :
    (∀ snapshot, (board.insert snapshot).1.store = board.store) ∧ board.tick.1.store = board.store := by
  obtain ⟨message, refused⟩ := Option.ne_none_iff_exists'.mp failed
  have inserted (snapshot : Snapshot) : (board.insert snapshot).1.store = board.store :=
    (insert_refused refused).1.store
  refine ⟨inserted, ?_⟩
  cases tick_ends board with
  | untaken nothing rests => exact rests.store
  | refused refused rests => exact rests.store
  | written snapshot taken writes rests => exact absurd writes failed

/-! ### Runs -/

theorem run_feeds (board : Board Time) (steps : List (Step Time)) :
    (board.run steps).1.quotes.feeds = board.quotes.feeds := by
  induction steps generalizing board with
  | nil => rfl
  | cons step steps induction => exact (induction (board.step step).1).trans (step_feeds board step)

theorem run_wellformed {steps : List (Step Time)} (wellformed : board.store.Wellformed)
    (unconfused : ∀ step ∈ steps, step.Unconfused board.quotes.feeds) :
    (board.run steps).1.store.Wellformed := by
  induction steps generalizing board with
  | nil => exact wellformed
  | cons step steps induction =>
      obtain ⟨first, rest⟩ := List.forall_mem_cons.mp unconfused
      apply @induction (board.step step).1 (step_wellformed wellformed first)
      rw [step_feeds]
      exact rest

/-- Runs one after the other on the same store, each with a retention of its own. -/
def runs (board : Board Time) (shifts : List (ℤ × List (Step Time))) : Board Time :=
  shifts.foldl (fun board shift =>
    ({ board with settings := { board.settings with retention := shift.1 } }.run shift.2).1) board

theorem runs_wellformed {shifts : List (ℤ × List (Step Time))} (wellformed : board.store.Wellformed)
    (unconfused : ∀ shift ∈ shifts, ∀ step ∈ shift.2, step.Unconfused board.quotes.feeds) :
    (board.runs shifts).store.Wellformed := by
  induction shifts generalizing board with
  | nil => exact wellformed
  | cons shift shifts induction =>
      obtain ⟨first, rest⟩ := List.forall_mem_cons.mp unconfused
      let begun : Board Time := { board with settings := { board.settings with retention := shift.1 } }
      apply @induction (begun.run shift.2).1 (@run_wellformed _ _ begun _ wellformed first)
      rw [run_feeds]
      exact rest

/-- On a store that was empty, whatever of the writes and the trims fails, however long records are to be
kept and whichever are dropped: every entry of the index stands for one millisecond, and no other entry
stands for it; and a record under it holds it and decodes to a snapshot of it. -/
theorem entries_agree_with_records (empty : board.store = Store.empty)
    {shifts : List (ℤ × List (Step Time))}
    (unconfused : ∀ shift ∈ shifts, ∀ step ∈ shift.2, step.Unconfused board.quotes.feeds) :
    (board.runs shifts).store.Agrees ∧
      (((board.runs shifts).conditions .write).failure ≠ none →
        (∀ snapshot, ((board.runs shifts).insert snapshot).1.store = (board.runs shifts).store) ∧
        (board.runs shifts).tick.1.store = (board.runs shifts).store) := by
  have wellformed : board.store.Wellformed := by
    rw [empty]
    exact Store.empty_wellformed
  exact ⟨Store.agrees_of_wellformed (runs_wellformed wellformed unconfused), store_of_failed_write⟩

/-- One feed, so many milliseconds after the last but one before 1970. -/
def lateFeed (feed : String) (later : Fin 100000) : Snapshot :=
  ⟨⟨62135596799998500 + later * 1000, by
    have bounded := later.isLt
    unfold dayLimit microsPerDay
    omega⟩, [(feed, 1.5)]⟩

/-- A millisecond that is written twice, one whose record is kept for no time, and one whose record is
dropped, while the trims fail and at last the writes. -/
def troubledShifts : List (ℤ × List (Step Rat)) := [
  (60, [.fail .trim (some "refused"), .insert (lateFeed "gold" 0), .insert (lateFeed "silver" 0)]),
  (0, [.insert (lateFeed "gold" 1)]),
  (60, [.insert (lateFeed "gold" 2), .forget 0, .fail .write (some "refused")])]

theorem entries_agree_with_records_in_trouble :
    ∃ board : Board Rat, board.store = Store.empty ∧
      (∀ shift ∈ troubledShifts, ∀ step ∈ shift.2, step.Unconfused board.quotes.feeds) ∧
      (board.runs troubledShifts).store.index.members = ["-2", "-1", "0"] ∧
      (board.runs troubledShifts).store.Agrees ∧
      ((board.runs troubledShifts).insert (lateFeed "gold" 3)).1.store =
        (board.runs troubledShifts).store := by
  have unconfused : ∀ shift ∈ troubledShifts, ∀ step ∈ shift.2,
      step.Unconfused ["gold", "silver"] := by
    intro shift isShift step isStep
    fin_cases isShift <;> fin_cases isStep <;>
      simp [Step.Unconfused, names, lateFeed]
  let board : Board Rat := start ⟨60, 500, 1000⟩ ["gold", "silver"] (lateFeed "gold" 0).timestamp
  obtain ⟨agrees, kept⟩ := @entries_agree_with_records _ _ board rfl _ unconfused
  have failed : ((board.runs troubledShifts).conditions .write).failure ≠ none :=
    Option.some_ne_none "refused"
  exact ⟨board, rfl, unconfused, by decide +kernel, agrees, (kept failed).1 _⟩

end Board

end PriceBoard
