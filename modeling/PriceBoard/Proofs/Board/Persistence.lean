import PriceBoard.Proofs.Board.Steps
import PriceBoard.Proofs.Store.Uniform
import Mathlib.Tactic.FinCases

/-!
# Ticks write before they publish

On a board whose store only ticks write, a snapshot that a tick hands on is in the store, under its own
millisecond and with its own values, whichever of the trim and the publishing fails. A tick that cannot
write its snapshot, or has none, leaves no trace but the counts and the time.
-/
namespace PriceBoard

open PriceBoard.Decimal

/-- A step of a run in which only ticks write and the clock shows UTC. -/
def Step.Live {Time : Type} : Step Time → Prop
  | .setNow now => now.offset = some Offset.utc
  | .insert _ | .forget _ => False
  | _ => True

namespace Board

variable {Time : Type} {feeds : List String} {reported : List (String × Float)}
  {before after board : Board Time} {report : TickReport} {step : Step Time}

/-! ### One tick -/

inductive Ticked (feeds : List String) (reported : List (String × Float))
    (before after : Board Time) (report : TickReport) : Prop where
  | incomplete (silent : ∃ feed ∈ feeds, feed ∉ names reported)
      (rests : before.Rests after) (nothing : report = ⟨none, [], []⟩)
  | refused (heard : ∀ feed ∈ feeds, feed ∈ names reported)
      (refused : (before.conditions .write).failure ≠ none)
      (rests : before.Rests after) (nothing : report = ⟨none, [], []⟩)
  | written (snapshot : Snapshot) (heard : ∀ feed ∈ feeds, feed ∈ names reported)
      (writes : (before.conditions .write).failure = none)
      (composite : Feed.Composite feeds reported before.now snapshot)
      (rests : ({ before.written snapshot with ready := true } : Board Time).Rests after)
      (emits : report = ⟨some snapshot, [snapshot], before.messages snapshot⟩)

structure Alive (feeds : List String) (reported : List (String × Float)) (board : Board Time) :
    Prop where
  reflects : board.quotes.Reflects feeds reported
  utc : board.now.offset = some Offset.utc
  wellformed : board.store.Wellformed
  uniform : board.store.Uniform feeds

theorem written_wellformed {snapshot : Snapshot} (configured : Feed.Configured feeds)
    (alive : before.Alive feeds reported)
    (composite : Feed.Composite feeds reported before.now snapshot) :
    (before.written snapshot).store.Wellformed :=
  Store.after_insert_wellformed alive.wellformed _
    (Store.no_timestamp_of_configured configured composite.exactly)

theorem alive_tick (configured : Feed.Configured feeds) (positive : 1 ≤ before.settings.retention)
    (alive : before.Alive feeds reported) (ticked : Ticked feeds reported before after report) :
    after.Alive feeds reported := by
  cases ticked with
  | incomplete silent rests nothing | refused heard refused rests nothing =>
      obtain ⟨_, _, rfl⟩ := rests
      exact ⟨alive.reflects, alive.utc, alive.wellformed, alive.uniform⟩
  | written snapshot heard writes composite rests emits =>
      obtain ⟨_, _, rfl⟩ := rests
      have wellformed := written_wellformed configured alive composite
      have uniform : (before.written snapshot).store.Uniform feeds :=
        Store.uniform_after_insert alive.uniform positive configured composite.exactly _
      exact ⟨alive.reflects, alive.utc, wellformed, uniform⟩

/-- A tick hands on only what it has written, and changes nothing where it writes nothing. -/
structure Persists (feeds : List String) (reported : List (String × Float))
    (before after : Board Time) (report : TickReport) : Prop where
  published : report.published = [] ∨
    ∃ snapshot, report.snapshot = some snapshot ∧ report.published = [snapshot.message newData]
  written : ∀ snapshot, report.snapshot = some snapshot →
    (before.conditions .write).failure = none ∧
      after.store = Store.afterInsert before.settings.retention before.store
        ⟨snapshot, (before.conditions .trim).failure⟩
  stored : ∀ snapshot, report.snapshot = some snapshot →
    ⟨intText snapshot.ms, snapshot.ms⟩ ∈ after.store.index ∧
      after.store.load [intText snapshot.ms] = .ok [snapshot.floored]
  composite : ∀ snapshot, report.snapshot = some snapshot →
    Feed.Composite feeds reported before.now snapshot
  refused : (before.conditions .write).failure ≠ none →
    report = ⟨none, [], []⟩ ∧ before.Rests after
  silent : (∃ feed ∈ feeds, feed ∉ names reported) → report = ⟨none, [], []⟩ ∧ before.Rests after
  heard : (∀ feed ∈ feeds, feed ∈ names reported) → (before.conditions .write).failure = none →
    ∃ snapshot, report = ⟨some snapshot, [snapshot], before.messages snapshot⟩

theorem persists_of_nothing (rests : before.Rests after)
    (cause : (∃ feed ∈ feeds, feed ∉ names reported) ∨ (before.conditions .write).failure ≠ none) :
    Persists feeds reported before after ⟨none, [], []⟩ where
  published := .inl rfl
  written snapshot given := by cases given
  stored snapshot given := by cases given
  composite snapshot given := by cases given
  refused _ := ⟨rfl, rests⟩
  silent _ := ⟨rfl, rests⟩
  heard all writes := by
    rcases cause with ⟨feed, configured, unreported⟩ | failed
    · exact absurd (all feed configured) unreported
    · exact absurd writes failed

theorem persists_of_ticked (configured : Feed.Configured feeds)
    (positive : 1 ≤ before.settings.retention) (alive : before.Alive feeds reported)
    (ticked : Ticked feeds reported before after report) :
    Persists feeds reported before after report := by
  cases ticked with
  | incomplete silent rests nothing =>
      rw [nothing]
      exact persists_of_nothing rests (.inl silent)
  | refused heard refused rests nothing =>
      rw [nothing]
      exact persists_of_nothing rests (.inr refused)
  | written snapshot heard writes composite rests emits =>
      obtain ⟨_, _, rfl⟩ := rests
      subst emits
      have wellformed := written_wellformed configured alive composite
      have keeps : (before.written snapshot).store.Keeps snapshot :=
        Store.keeps_inserted alive.wellformed alive.uniform positive configured composite.exactly _
      constructor
      · dsimp only [messages]
        cases (before.conditions .publish).failure with
        | none => exact .inr ⟨snapshot, rfl, rfl⟩
        | some message => exact .inl rfl
      · intro other given
        cases given
        exact ⟨writes, rfl⟩
      · intro other given
        cases given
        exact ⟨Store.entry_of_holds wellformed keeps.indexed,
          Store.load_of_keeps wellformed configured composite.exactly keeps⟩
      · intro other given
        cases given
        exact composite
      · exact fun failed => absurd writes failed
      · rintro ⟨feed, member, unreported⟩
        exact absurd (heard feed member) unreported
      · exact fun _ _ => ⟨snapshot, rfl⟩

/-! ### Runs -/

variable [Timeline Time]

theorem ticked (reflects : board.quotes.Reflects feeds reported) (distinct : feeds.Nodup)
    (utc : board.now.offset = some Offset.utc) :
    ∃ report, board.tick.2 = .ok report ∧ Ticked feeds reported board board.tick.1 report := by
  obtain ⟨complete, shows⟩ := Feed.exists_shown reflects distinct
  cases complete with
  | none =>
      have silent := shows.incomplete.mp rfl
      obtain ⟨rests, answer⟩ := tick_incomplete shows.answer
      exact ⟨_, answer, .incomplete silent rests rfl⟩
  | some values =>
      have heard : ∀ feed ∈ feeds, feed ∈ names reported := by
        intro feed configured
        by_contra unreported
        cases shows.incomplete.mpr ⟨feed, configured, unreported⟩
      have taken := take_complete utc shows.answer
      cases failure : (board.conditions .write).failure with
      | none =>
          obtain ⟨rests, answer⟩ := tick_written taken failure
          have composite : Feed.Composite feeds reported board.now ⟨board.now.wall, values⟩ :=
            ⟨rfl, shows.exactly values rfl, shows.newest values rfl⟩
          exact ⟨_, answer, .written _ heard failure composite rests rfl⟩
      | some message =>
          obtain ⟨rests, answer⟩ := tick_refused taken failure
          have refused : (board.conditions .write).failure ≠ none := by
            rw [failure]
            exact Option.some_ne_none message
          exact ⟨_, answer, .refused heard refused rests rfl⟩

theorem alive_start (settings : BoardSettings) (feeds : List String) {now : DateTime}
    (utc : now.offset = some Offset.utc) : (start settings feeds now : Board Time).Alive feeds [] where
  reflects := Feed.reflects_empty feeds
  utc := utc
  wellformed := Store.empty_wellformed
  uniform := Store.uniform_empty feeds

theorem utc_step (live : step.Live) (utc : board.now.offset = some Offset.utc) :
    (board.step step).1.now.offset = some Offset.utc := by
  rw [step_now]
  cases step with
  | setNow now => exact live
  | _ => exact utc

theorem alive_step (configured : Feed.Configured feeds) (positive : 1 ≤ board.settings.retention)
    (alive : board.Alive feeds reported) (live : step.Live) :
    (board.step step).1.Alive feeds (reported ++ reports [step]) := by
  have reflects : (board.step step).1.quotes.Reflects feeds (reported ++ reports [step]) :=
    run_reflects alive.reflects [step]
  have utc := utc_step live alive.utc
  by_cases writes : step.Writes
  · cases step with
    | tick =>
        obtain ⟨report, _, ticked⟩ := ticked alive.reflects configured.distinct alive.utc
        have next := alive_tick configured positive alive ticked
        exact ⟨reflects, utc, next.wellformed, next.uniform⟩
    | insert snapshot => exact live.elim
    | forget ms => exact live.elim
    | _ => exact writes.elim
  · have same := step_store board writes
    constructor
    · exact reflects
    · exact utc
    · rw [same]
      exact alive.wellformed
    · rw [same]
      exact alive.uniform

theorem alive_run (configured : Feed.Configured feeds) (positive : 1 ≤ board.settings.retention)
    (alive : board.Alive feeds reported) {steps : List (Step Time)}
    (live : ∀ step ∈ steps, step.Live) :
    (board.run steps).1.Alive feeds (reported ++ reports steps) := by
  induction steps generalizing board reported with
  | nil =>
      rw [reports, List.filterMap_nil, List.append_nil]
      exact alive
  | cons step steps induction =>
      have settings := step_settings board step
      have next := alive_step configured positive alive (live step List.mem_cons_self)
      have rest := @induction _ (board.step step).1 (by rwa [settings]) next
        fun other member => live other (List.mem_cons_of_mem _ member)
      have joined : reports (step :: steps) = reports [step] ++ reports steps := by
        rw [reports, reports, reports, ← List.filterMap_append, List.singleton_append]
      rw [joined, ← List.append_assoc]
      exact rest

/-- After any run in which only ticks write, a tick answers, and persists what it hands on. -/
theorem tick_persists_first {settings : BoardSettings} (positive : 1 ≤ settings.retention)
    (configured : Feed.Configured feeds) {now : DateTime} (utc : now.offset = some Offset.utc)
    {steps : List (Step Time)} (live : ∀ step ∈ steps, step.Live)
    (ran : board = ((start settings feeds now).run steps).1) :
    ∃ report, board.tick.2 = .ok report ∧
      Persists feeds (reports steps) board board.tick.1 report := by
  have started : 1 ≤ (start settings feeds now : Board Time).settings.retention := positive
  have alive := alive_run configured started (alive_start settings feeds utc) live
  rw [← ran, List.nil_append] at alive
  obtain ⟨report, answer, ticked⟩ := ticked alive.reflects configured.distinct alive.utc
  have retention : 1 ≤ board.settings.retention := by
    rw [ran, run_settings]
    exact positive
  exact ⟨report, answer, persists_of_ticked configured retention alive ticked⟩

/-- A second snapshot of one millisecond, while the trim and the publishing fail. -/
def stubbornSteps : List (Step Rat) := [
  .update "bitcoin" 1.5 none, .tick, .update "bitcoin" 2.5 none,
  .setNow ⟨⟨63840000002000900, by decide⟩, some Offset.utc⟩,
  .fail .trim (some "refused"), .fail .publish (some "refused")]

def stubbornBoard : Board Rat :=
  ((start ⟨60, 500, 1000⟩ ["bitcoin"] ⟨⟨63840000002000100, by decide⟩, some Offset.utc⟩).run
    stubbornSteps).1

theorem tick_persists_first_while_trim_fails :
    (1 : ℤ) ≤ 60 ∧ Feed.Configured ["bitcoin"] ∧ (∀ step ∈ stubbornSteps, step.Live) ∧
      ∃ snapshot, stubbornBoard.tick.2 = .ok ⟨some snapshot, [snapshot], []⟩ ∧
        Persists ["bitcoin"] (reports stubbornSteps) stubbornBoard stubbornBoard.tick.1
          ⟨some snapshot, [snapshot], []⟩ := by
  have positive : (1 : ℤ) ≤ 60 := by decide
  have configured : Feed.Configured ["bitcoin"] := ⟨by decide, by decide⟩
  have live : ∀ step ∈ stubbornSteps, step.Live := by
    intro step member
    fin_cases member <;> trivial
  have utc : (DateTime.mk ⟨63840000002000100, by decide⟩ (some Offset.utc)).offset =
      some Offset.utc := rfl
  have ran : stubbornBoard = ((start ⟨60, 500, 1000⟩ ["bitcoin"]
      ⟨⟨63840000002000100, by decide⟩, some Offset.utc⟩).run stubbornSteps).1 := rfl
  have retention : 1 ≤ (BoardSettings.mk 60 500 1000).retention := positive
  obtain ⟨report, answer, persists⟩ := tick_persists_first retention configured utc live ran
  have heard : ∀ feed ∈ ["bitcoin"], feed ∈ names (reports stubbornSteps) := by decide
  have writes : (stubbornBoard.conditions .write).failure = none := rfl
  obtain ⟨snapshot, emits⟩ := persists.heard heard writes
  have silenced : stubbornBoard.messages snapshot = [] := rfl
  rw [silenced] at emits
  rw [emits] at answer persists
  exact ⟨positive, configured, live, snapshot, answer, persists⟩

end Board
end PriceBoard
