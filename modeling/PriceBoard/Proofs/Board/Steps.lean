import PriceBoard.Board.Step
import PriceBoard.Proofs.Feed.Quotes
import PriceBoard.Proofs.Store.Retention

/-!
# What the steps of a board change

Readings take time and are counted, and change nothing else. Only reports change the quotes. A tick of
complete quotes writes their snapshot, and publishes it only where the write does not fail.
-/
namespace PriceBoard

open Feed (Quotes)

namespace Board

variable {Time : Type}

/-! ### Rest -/

/-- Nothing has changed but the time and the counts. -/
def Rests (before after : Board Time) : Prop := ∃ clock metrics, after = { before with clock, metrics }

section

variable {before between after : Board Time}

theorem Rests.refl (board : Board Time) : board.Rests board := ⟨board.clock, board.metrics, rfl⟩

theorem Rests.trans (first : before.Rests between) (second : between.Rests after) :
    before.Rests after := by
  obtain ⟨_, _, rfl⟩ := first
  obtain ⟨clock, metrics, rfl⟩ := second
  exact ⟨clock, metrics, rfl⟩

theorem Rests.settings (rests : before.Rests after) : after.settings = before.settings := by
  obtain ⟨_, _, rfl⟩ := rests
  rfl

theorem Rests.quotes (rests : before.Rests after) : after.quotes = before.quotes := by
  obtain ⟨_, _, rfl⟩ := rests
  rfl

theorem Rests.store (rests : before.Rests after) : after.store = before.store := by
  obtain ⟨_, _, rfl⟩ := rests
  rfl

theorem Rests.conditions (rests : before.Rests after) : after.conditions = before.conditions := by
  obtain ⟨_, _, rfl⟩ := rests
  rfl

theorem Rests.now (rests : before.Rests after) : after.now = before.now := by
  obtain ⟨_, _, rfl⟩ := rests
  rfl

theorem Rests.ready (rests : before.Rests after) : after.ready = before.ready := by
  obtain ⟨_, _, rfl⟩ := rests
  rfl

end

theorem rests_count (board : Board Time) (metrics : List Metric) : board.Rests (board.count metrics) :=
  ⟨board.clock, board.metrics ++ metrics, rfl⟩

/-- What writing does not change: the quotes, the settings, the conditions and the wall clock. -/
structure Steady (before after : Board Time) : Prop where
  settings : after.settings = before.settings
  quotes : after.quotes = before.quotes
  conditions : after.conditions = before.conditions
  now : after.now = before.now

theorem Rests.steady {before after : Board Time} (rests : before.Rests after) :
    before.Steady after :=
  ⟨rests.settings, rests.quotes, rests.conditions, rests.now⟩

theorem rests_compile (board : Board Time) (query : String) : board.Rests (board.compile query).1 := by
  unfold compile
  split
  · exact rests_count board _
  · exact .refl board

variable [Timeline Time]

theorem rests_attempt (board : Board Time) (command : Command) :
    board.Rests (board.attempt command).1 :=
  ⟨_, board.metrics, rfl⟩

theorem rests_issue (deadline : Option Time) (command : Command) (board : Board Time) :
    board.Rests (board.issue deadline command).1 := by
  unfold issue
  cases deadline with
  | none => exact rests_attempt board command
  | some deadline =>
      dsimp only
      split
      · exact rests_attempt board command
      · exact ⟨deadline, board.metrics, rfl⟩

theorem rests_run (deadline : Option Time) (budget : Nat) (board : Board Time) (reading : Reading) :
    board.Rests (Reading.run host deadline budget board reading).1 := by
  induction budget generalizing board reading with
  | zero => exact .refl board
  | succ budget induction =>
      have issued : board.Rests (host.issue deadline reading.command board).1 :=
        rests_issue deadline reading.command board
      rw [Reading.run]
      generalize host.issue deadline reading.command board = ended at issued ⊢
      obtain ⟨next, outcome⟩ := ended
      cases outcome with
      | answered =>
          dsimp only
          split
          · exact issued
          · exact issued
          · exact issued.trans (induction next _)
      | refused message => exact issued
      | outOfTime => exact issued

theorem rests_progress (deadline : Option Time) (board : Board Time) (progress : Progress) :
    board.Rests (Reading.runProgress host deadline board progress).1 := by
  cases progress with
  | done snapshots => exact .refl board
  | more reading => exact rests_run deadline _ board reading

theorem rests_limited_call (kind : QueryKind) (board : Board Time)
    (deadline : Option (Deadline Time)) (begin : Except TimeError Progress) :
    board.Rests (History.limitedCall host kind board deadline begin).1 := by
  unfold History.limitedCall
  cases begin with
  | error error =>
      cases deadline with
      | none => exact .refl board
      | some deadline =>
          dsimp only
          split <;> exact .refl board
  | ok progress =>
      cases deadline with
      | none => exact rests_progress none board progress
      | some deadline =>
          dsimp only
          split
          · exact rests_progress _ board progress
          · exact .refl board

theorem rests_call (kind : QueryKind) (board : Board Time) (deadline : Option (Deadline Time))
    (begin : Except TimeError Progress) :
    board.Rests (History.call host kind board deadline begin).world :=
  rests_limited_call kind board deadline begin

theorem rests_read (board : Board Time) (kind : QueryKind) (begin : Except TimeError Progress) :
    board.Rests (board.read kind begin).1 := by
  cases begin with
  | error error => exact .refl board
  | ok progress => exact rests_progress none board progress

theorem rests_of_window (board : Board Time) (choice : WindowChoice)
    (deadline : Option (Deadline Time)) : board.Rests (board.ofWindow choice deadline).1 := by
  change board.Rests ((History.ofWindow host board.now board choice deadline).world.count _)
  refine Rests.trans ?_ (rests_count _ _)
  unfold History.ofWindow
  split
  · exact .refl board
  · exact rests_call .window board deadline _

theorem rests_search (board : Board Time) (query : String) (deadline : Option (Deadline Time)) :
    board.Rests (board.search query deadline).1 := by
  change board.Rests ((History.search host board.context board.settings.limit board.settings.batch
    board query deadline).world.count _)
  refine Rests.trans ?_ (rests_count _ _)
  unfold History.search
  split
  · exact .refl board
  · split
    · exact .refl board
    · exact .refl board
    · exact rests_call .predicate board deadline _

theorem rests_publish (board : Board Time) (event : String) (snapshot : Snapshot) :
    board.Rests (board.publish event snapshot).1 := by
  have attempted := rests_attempt board .publish
  unfold publish
  generalize board.attempt .publish = ended at attempted
  obtain ⟨next, failure⟩ := ended
  cases failure with
  | none => exact attempted
  | some message => exact attempted

end Board

/-- A step that looks at the board or publishes, and leaves its quotes, its store and its clock alone. -/
def Step.Reads {Time : Type} : Step Time → Prop
  | .missing | .values | .quotes | .publish _ _ | .since _ | .matching _ _ | .window _ _ | .query _ _
  | .cutoff _ | .compile _ | .dump => True
  | _ => False

namespace Board

variable {Time : Type} [Timeline Time]

theorem rests_of_reads (board : Board Time) {step : Step Time} (reads : step.Reads) :
    board.Rests (board.step step).1 := by
  cases step with
  | missing => exact .refl board
  | values => exact .refl board
  | quotes => exact .refl board
  | publish event snapshot => exact rests_publish board event snapshot
  | since cutoff => exact rests_read board .window (.ok (.more (Reading.since cutoff)))
  | matching predicate limit =>
      exact rests_read board .predicate (Reading.matching predicate limit board.settings.batch)
  | window choice deadline => exact rests_of_window board choice deadline
  | query query deadline => exact rests_search board query deadline
  | cutoff choice => exact .refl board
  | compile query => exact rests_compile board query
  | dump => exact .refl board
  | setNow now => exact reads.elim
  | update feed value time => exact reads.elim
  | message feed payload => exact reads.elim
  | tick => exact reads.elim
  | insert snapshot => exact reads.elim
  | fail command message => exact reads.elim
  | delay command seconds => exact reads.elim
  | forget ms => exact reads.elim

/-! ### Writing -/

def written (board : Board Time) (snapshot : Snapshot) : Board Time :=
  { board with
    store := Store.afterInsert board.settings.retention board.store
      ⟨snapshot, (board.conditions .trim).failure⟩ }

section

variable {board : Board Time} {snapshot : Snapshot} {message : String}

theorem insert_refused (refused : (board.conditions .write).failure = some message) :
    board.Rests (board.insert snapshot).1 ∧
      (board.insert snapshot).2 = .error (.notWritten message) := by
  unfold insert attempt
  simp only [refused, and_true]
  exact rests_attempt board .write

theorem insert_written (writes : (board.conditions .write).failure = none) :
    (board.written snapshot).Rests (board.insert snapshot).1 ∧
      (board.insert snapshot).2 = .ok () := by
  unfold insert attempt written Store.afterInsert
  simp only [writes]
  cases (board.conditions .trim).failure with
  | none => exact ⟨⟨_, board.metrics, rfl⟩, rfl⟩
  | some trimFailure => exact ⟨⟨_, board.metrics, rfl⟩, rfl⟩

/-! ### Ticks -/

def messages (board : Board Time) (snapshot : Snapshot) : List String :=
  match (board.conditions .publish).failure with
  | some _ => []
  | none => [snapshot.message newData]

theorem tick_incomplete (incomplete : board.quotes.completeValues = .ok none) :
    board.Rests board.tick.1 ∧ board.tick.2 = .ok ⟨none, [], []⟩ := by
  unfold tick Quotes.take
  simp only [incomplete, and_true]
  exact rests_count board _

/-- A tick that finds no snapshot to take changes nothing but the counts. -/
theorem tick_untaken
    (untaken : ∀ snapshot, board.quotes.take (.ok board.now) ≠ .ok (some snapshot)) :
    board.Rests board.tick.1 := by
  unfold tick
  split
  · exact .refl board
  · exact rests_count board _
  · next snapshot taken => exact absurd taken (untaken snapshot)

theorem tick_refused (taken : board.quotes.take (.ok board.now) = .ok (some snapshot))
    (refused : (board.conditions .write).failure = some message) :
    board.Rests board.tick.1 ∧ board.tick.2 = .ok ⟨none, [], []⟩ := by
  obtain ⟨rests, failed⟩ := @insert_refused _ _ board snapshot message refused
  unfold tick emit
  simp only [taken]
  generalize board.insert snapshot = inserted at rests failed
  obtain ⟨next, result⟩ := inserted
  dsimp only at rests failed
  subst failed
  exact ⟨rests.trans (rests_count next _), rfl⟩

theorem tick_written (taken : board.quotes.take (.ok board.now) = .ok (some snapshot))
    (writes : (board.conditions .write).failure = none) :
    ({ board.written snapshot with ready := true } : Board Time).Rests board.tick.1 ∧
      board.tick.2 = .ok ⟨some snapshot, [snapshot], board.messages snapshot⟩ := by
  obtain ⟨rests, written⟩ := @insert_written _ _ board snapshot writes
  unfold tick emit
  simp only [taken]
  generalize board.insert snapshot = inserted at rests written
  obtain ⟨next, result⟩ := inserted
  dsimp only at rests written
  subst written
  obtain ⟨clock, metrics, rfl⟩ := rests
  unfold messages publish attempt
  dsimp only [Board.written]
  cases (board.conditions .publish).failure with
  | none => exact ⟨⟨_, _, rfl⟩, rfl⟩
  | some publishFailure => exact ⟨⟨_, _, rfl⟩, rfl⟩

/-- The store that a tick leaves is the one that the insert of its snapshot leaves. -/
theorem tick_store (taken : board.quotes.take (.ok board.now) = .ok (some snapshot)) :
    board.tick.1.store = (board.insert snapshot).1.store := by
  cases failure : (board.conditions .write).failure with
  | none => exact (tick_written taken failure).1.store.trans (insert_written failure).1.store.symm
  | some message => exact (tick_refused taken failure).1.store.trans (insert_refused failure).1.store.symm

end

/-- A clock that shows UTC gives a snapshot of any complete quotes. -/
theorem take_complete {quotes : Quotes} {now : DateTime} {values : List (String × Float)}
    (utc : now.offset = some Offset.utc) (complete : quotes.completeValues = .ok (some values)) :
    quotes.take (.ok now) = .ok (some ⟨now.wall, values⟩) := by
  obtain ⟨wall, offset⟩ := now
  dsimp only at utc
  subst utc
  have inRange : WallTime.ofMicros? (DateTime.mk wall (some Offset.utc)).instant = some wall :=
    WallTime.of_micros_iff.mpr (DateTime.utc_instant wall).symm
  unfold Quotes.take
  simp only [complete, Except.bind, Snapshot.make, DateTime.toUtc, inRange]
  rfl

theorem insert_steady (board : Board Time) (snapshot : Snapshot) :
    board.Steady (board.insert snapshot).1 := by
  cases failure : (board.conditions .write).failure with
  | none =>
      have rests := (@insert_written _ _ board snapshot failure).1
      exact ⟨rests.settings, rests.quotes, rests.conditions, rests.now⟩
  | some message => exact (insert_refused failure).1.steady

inductive TickEnds (before after : Board Time) : Prop where
  | untaken (nothing : ∀ snapshot, before.quotes.take (.ok before.now) ≠ .ok (some snapshot))
      (rests : before.Rests after)
  | refused (refused : (before.conditions .write).failure ≠ none) (rests : before.Rests after)
  | written (snapshot : Snapshot)
      (taken : before.quotes.take (.ok before.now) = .ok (some snapshot))
      (writes : (before.conditions .write).failure = none)
      (rests : ({ before.written snapshot with ready := true } : Board Time).Rests after)

theorem tick_ends (board : Board Time) : board.TickEnds board.tick.1 := by
  by_cases taken : ∃ snapshot, board.quotes.take (.ok board.now) = .ok (some snapshot)
  · obtain ⟨snapshot, taken⟩ := taken
    cases failure : (board.conditions .write).failure with
    | none => exact .written snapshot taken failure (tick_written taken failure).1
    | some message =>
        have refused : (board.conditions .write).failure ≠ none := by
          rw [failure]
          exact Option.some_ne_none message
        exact .refused refused (tick_refused taken failure).1
  · have nothing := not_exists.mp taken
    exact .untaken nothing (tick_untaken nothing)

theorem tick_steady (board : Board Time) : board.Steady board.tick.1 := by
  cases tick_ends board with
  | untaken nothing rests => exact rests.steady
  | refused refused rests => exact rests.steady
  | written snapshot taken writes rests =>
      exact ⟨rests.settings, rests.quotes, rests.conditions, rests.now⟩

end Board

/-! ### Steps -/

/-- The feed and the value that a step reports: those of an update, or of a message that holds a trade. -/
def Step.report? {Time : Type} : Step Time → Option (String × Float)
  | .update feed value _ => some (feed, value)
  | .message feed payload =>
    match Feed.readTrade payload with
    | .ok (some trade) => some (feed, trade.price)
    | _ => none
  | _ => none

def Step.clock? {Time : Type} : Step Time → Option DateTime
  | .setNow now => some now
  | _ => none

def Step.Writes {Time : Type} : Step Time → Prop
  | .tick | .insert _ | .forget _ => True
  | _ => False

namespace Board

section

variable {Time : Type}

/-- Only the quotes change, and the counts. -/
theorem rests_update (board : Board Time) (feed : String) (value : Float) (time : Option DateTime) :
    ({ board with quotes := (board.quotes.update feed value (time.getD board.now)).1 } :
      Board Time).Rests (board.update feed value time).1 := by
  unfold update
  by_cases known : feed ∈ board.quotes.feeds
  · rw [Feed.update_known known]
    exact ⟨board.clock, _, rfl⟩
  · rw [Feed.update_unknown known]
    exact .refl board

theorem message_of_trade {feed : String} {payload : Feed.Payload} {trade : Feed.Trade}
    (read : Feed.readTrade payload = .ok (some trade)) (board : Board Time) :
    board.message feed payload =
      ((board.update feed trade.price trade.time).1, .ok (board.update feed trade.price trade.time).2) := by
  unfold message
  simp only [read]

/-- Only a message that holds a trade reports. -/
theorem trade_of_report {other feed : String} {payload : Feed.Payload} {value : Float}
    (report : (Step.message other payload : Step Time).report? = some (feed, value)) :
    ∃ trade, Feed.readTrade payload = .ok (some trade) ∧ other = feed ∧ trade.price = value := by
  cases read : Feed.readTrade payload with
  | error error => simp [Step.report?, read] at report
  | ok found =>
      cases found with
      | none => simp [Step.report?, read] at report
      | some trade =>
          simp only [Step.report?, read, Option.some.injEq, Prod.mk.injEq] at report
          exact ⟨trade, rfl, report⟩

theorem rests_message {feed : String} {payload : Feed.Payload}
    (none : ∀ trade, Feed.readTrade payload ≠ .ok (some trade)) (board : Board Time) :
    board.Rests (board.message feed payload).1 := by
  unfold message
  split
  · exact .refl board
  · exact rests_count board _
  · rename_i trade read
    exact absurd read (none trade)

end

variable {Time : Type} [Timeline Time] {board : Board Time} {step : Step Time}

theorem rests_of_silent_message {feed : String} {payload : Feed.Payload}
    (silent : (Step.message feed payload : Step Time).report? = none) :
    board.Rests (board.step (.message feed payload)).1 := by
  apply rests_message
  intro trade read
  simp [Step.report?, read] at silent

theorem rests_of_reporting_message {other feed : String} {payload : Feed.Payload} {value : Float}
    (report : (Step.message other payload : Step Time).report? = some (feed, value)) :
    ∃ time, ({ board with quotes := (board.quotes.update feed value time).1 } : Board Time).Rests
      (board.step (.message other payload)).1 := by
  obtain ⟨trade, read, rfl, rfl⟩ := trade_of_report report
  refine ⟨trade.time.getD board.now, ?_⟩
  change Rests _ (board.message other payload).1
  rw [message_of_trade read]
  exact rests_update board other trade.price trade.time

inductive Changed (before after : Board Time) (step : Step Time) : Prop where
  | reported (feed : String) (value : Float) (time : DateTime)
      (report : step.report? = some (feed, value)) (clock : step.clock? = none)
      (quiet : ¬step.Writes)
      (rests : ({ before with quotes := (before.quotes.update feed value time).1 } :
        Board Time).Rests after)
  | set (conditions : Conditions Time) (silent : step.report? = none) (quiet : ¬step.Writes)
      (rests : ({ before with now := step.clock?.getD before.now, conditions } :
        Board Time).Rests after)
  | wrote (silent : step.report? = none) (clock : step.clock? = none) (writes : step.Writes)
      (steady : before.Steady after)

theorem changed_of_reads (board : Board Time) (reads : step.Reads) :
    board.Changed (board.step step).1 step := by
  have rests := rests_of_reads board reads
  have set (silent : step.report? = none) (clock : step.clock? = none) (quiet : ¬step.Writes) :
      board.Changed (board.step step).1 step := by
    refine .set board.conditions silent quiet ?_
    rw [clock]
    exact rests
  cases step with
  | setNow _ | update _ _ _ | message _ _ | tick | insert _ | fail _ _ | delay _ _ | forget _ =>
      exact reads.elim
  | _ => exact set rfl rfl id

theorem changed (board : Board Time) (step : Step Time) :
    board.Changed (board.step step).1 step := by
  cases step with
  | setNow now => exact .set board.conditions rfl id (.refl _)
  | update feed value time => exact .reported feed value _ rfl rfl id (rests_update board feed value time)
  | message feed payload =>
      cases report : (Step.message feed payload : Step Time).report? with
      | none => exact .set board.conditions report id (rests_of_silent_message report)
      | some pair =>
          obtain ⟨time, rests⟩ := @rests_of_reporting_message _ _ board _ _ _ _ report
          exact .reported pair.1 pair.2 time report rfl id rests
  | tick => exact .wrote rfl rfl trivial (tick_steady board)
  | insert snapshot => exact .wrote rfl rfl trivial (insert_steady board snapshot)
  | fail command message => exact .set _ rfl id (.refl _)
  | delay command seconds => exact .set _ rfl id (.refl _)
  | forget ms => exact .wrote rfl rfl trivial ⟨rfl, rfl, rfl, rfl⟩
  | _ => exact changed_of_reads board trivial

theorem step_settings (board : Board Time) (step : Step Time) :
    (board.step step).1.settings = board.settings := by
  cases changed board step with
  | reported feed value time report clock quiet rests => exact rests.settings
  | set conditions silent quiet rests => exact rests.settings
  | wrote silent clock writes steady => exact steady.settings

theorem step_now (board : Board Time) (step : Step Time) :
    (board.step step).1.now = step.clock?.getD board.now := by
  cases changed board step with
  | reported feed value time report clock quiet rests => rw [clock, rests.now, Option.getD_none]
  | set conditions silent quiet rests => exact rests.now
  | wrote silent clock writes steady => rw [clock, steady.now, Option.getD_none]

theorem step_store (board : Board Time) (quiet : ¬step.Writes) :
    (board.step step).1.store = board.store := by
  cases changed board step with
  | reported feed value time report clock quiet rests => exact rests.store
  | set conditions silent quiet rests => exact rests.store
  | wrote silent clock writes steady => exact absurd writes quiet

theorem step_quotes_of_silent (board : Board Time) (silent : step.report? = none) :
    (board.step step).1.quotes = board.quotes := by
  cases changed board step with
  | reported feed value time report clock quiet rests => cases silent.symm.trans report
  | set conditions silent quiet rests => exact rests.quotes
  | wrote silent clock writes steady => exact steady.quotes

theorem step_quotes_of_report (board : Board Time) {feed : String} {value : Float}
    (report : step.report? = some (feed, value)) :
    ∃ time, (board.step step).1.quotes = (board.quotes.update feed value time).1 := by
  cases changed board step with
  | reported other given time known clock quiet rests =>
      cases known.symm.trans report
      exact ⟨time, rests.quotes⟩
  | set conditions silent quiet rests => cases silent.symm.trans report
  | wrote silent clock writes steady => cases silent.symm.trans report

theorem step_feeds (board : Board Time) (step : Step Time) :
    (board.step step).1.quotes.feeds = board.quotes.feeds := by
  cases report : step.report? with
  | none => rw [step_quotes_of_silent board report]
  | some pair =>
      obtain ⟨time, updated⟩ := step_quotes_of_report board report
      rw [updated, Feed.feeds_update]

/-! ### Runs -/

theorem run_append (board : Board Time) (first second : List (Step Time)) :
    (board.run (first ++ second)).1 = ((board.run first).1.run second).1 := by
  induction first generalizing board with
  | nil => rfl
  | cons step steps induction => exact induction (board.step step).1

theorem run_append_replies (board : Board Time) (first second : List (Step Time)) :
    (board.run (first ++ second)).2 = (board.run first).2 ++ ((board.run first).1.run second).2 := by
  induction first generalizing board with
  | nil => rfl
  | cons step steps induction => exact congrArg ((board.step step).2 :: ·) (induction (board.step step).1)

theorem run_settings (board : Board Time) (steps : List (Step Time)) :
    (board.run steps).1.settings = board.settings := by
  induction steps generalizing board with
  | nil => rfl
  | cons step steps induction => exact (induction (board.step step).1).trans (step_settings board step)

def reports (steps : List (Step Time)) : List (String × Float) := steps.filterMap Step.report?

theorem step_reflects {feeds : List String} {earlier : List (String × Float)}
    (reflects : board.quotes.Reflects feeds earlier) (step : Step Time) :
    (board.step step).1.quotes.Reflects feeds (earlier ++ step.report?.toList) := by
  cases report : step.report? with
  | none =>
      rw [step_quotes_of_silent board report, Option.toList_none, List.append_nil]
      exact reflects
  | some pair =>
      obtain ⟨time, updated⟩ := step_quotes_of_report board report
      rw [updated]
      exact Feed.reflects_update reflects pair.1 pair.2 time

theorem run_reflects {board : Board Time} {feeds : List String} {earlier : List (String × Float)}
    (reflects : board.quotes.Reflects feeds earlier) (steps : List (Step Time)) :
    (board.run steps).1.quotes.Reflects feeds (earlier ++ reports steps) := by
  induction steps generalizing board earlier with
  | nil =>
      rw [reports, List.filterMap_nil, List.append_nil]
      exact reflects
  | cons step steps induction =>
      rw [reports, filter_map_cons, ← List.append_assoc]
      exact @induction (board.step step).1 _ (step_reflects reflects step)

end Board

end PriceBoard
