import PriceBoard.Proofs.Board.Completeness
import PriceBoard.Proofs.Hosts

/-!
# The counts of a run

What a run adds to the counts can be read off its steps and their replies, whatever fails or is slow:
every report, dropped message, tick, call of the store and failed query is counted once. Only a tick
that raises is counted nowhere, and it raises exactly when every feed has reported and the clock shows a
time that UTC cannot show.
-/
namespace PriceBoard

/-! ### Moments -/

structure Moment (Time : Type) where
  before : Board Time
  step : Step Time
  reply : Except BoardError Reply

def Step.kind? {Time : Type} : Step Time → Option QueryKind
  | .window _ _ => some .window
  | .query _ _ | .compile _ => some .predicate
  | _ => none

def Step.isTick {Time : Type} : Step Time → Bool
  | .tick => true
  | _ => false

def Step.Counted {Time : Type} : Step Time → Prop
  | .update _ _ _ | .message _ _ | .tick | .window _ _ | .query _ _ | .compile _ => True
  | _ => False

def HistoryError.failure? : HistoryError → Option QueryFailure
  | .timedOut _ _ => some .timeout
  | .storage _ _ => some .storage
  | .malformed _ => some .malformed
  | _ => none

namespace Moment

variable {Time : Type}

def updates (feed : String) (moment : Moment Time) : Bool :=
  match moment.step, moment.reply with
  | .update name _ _, .ok (.flag true) => name = feed
  | .message name _, .ok (.flag true) => name = feed
  | _, _ => false

def drops (feed : String) (moment : Moment Time) : Bool :=
  match moment.step with
  | .message name payload =>
    match Feed.readTrade payload with
    | .ok none => name = feed
    | _ => false
  | _ => false

def report? (moment : Moment Time) : Option TickReport :=
  match moment.step, moment.reply with
  | .tick, .ok (.tick report _) => some report
  | _, _ => none

def ends (moment : Moment Time) : Bool := moment.report?.isSome

def emits (moment : Moment Time) : Bool := moment.report?.any (·.snapshot.isSome)

def handsOn (moment : Moment Time) : ℕ := (moment.report?.map (·.emitted.length)).getD 0

/-- A tick that returns a snapshot and publishes nothing. -/
def unheard (moment : Moment Time) : Bool :=
  moment.report?.any fun report => report.snapshot.isSome && report.published.isEmpty

/-- A query that calls the store: a window whose start can be computed, or a text whose predicate is not
contradictory. -/
def calls (kind : QueryKind) (moment : Moment Time) : Bool :=
  match moment.step with
  | .window choice _ =>
    kind = .window && (History.windowCutoff choice moment.before.now).toOption.isSome
  | .query query _ =>
    kind = .predicate && ((History.compile moment.before.context query).toOption.any fun predicate =>
      predicate.contradictory.toOption.any fun dead => !dead)
  | _ => false

def failure? (moment : Moment Time) : Option QueryFailure :=
  match moment.reply with
  | .error (.history error) => error.failure?
  | _ => none

def fails (kind : QueryKind) (failure : QueryFailure) (moment : Moment Time) : Bool :=
  moment.step.kind? = some kind && moment.failure? = some failure

end Moment

/-- The counts are those of the steps and replies: each increment is owed to one of them. -/
structure Accounted {Time : Type} (metrics : List Metric) (moments : List (Moment Time)) : Prop where
  updates : ∀ feed, metrics.count (.feedUpdate feed) = moments.countP (Moment.updates feed)
  drops : ∀ feed, metrics.count (.messageDropped feed) = moments.countP (Moment.drops feed)
  emitted : metrics.count (.tick .emitted) = moments.countP Moment.emits
  handedOn : metrics.count (.tick .emitted) = (moments.map Moment.handsOn).sum
  ticks : metrics.count (.tick .emitted) + metrics.count (.tick .incomplete) +
    metrics.count (.tick .persistFailed) = moments.countP Moment.ends
  unheard : metrics.count .broadcastError = moments.countP Moment.unheard
  timed : metrics.count .tickLatency =
    metrics.count (.tick .emitted) + metrics.count (.tick .persistFailed)
  calls : ∀ kind, metrics.count (.queryLatency kind) = moments.countP (Moment.calls kind)
  fails : ∀ kind failure,
    metrics.count (.queryError kind failure) = moments.countP (Moment.fails kind failure)

section

variable {Time : Type}

theorem accounted_nil : Accounted [] ([] : List (Moment Time)) := by
  constructor <;> intros <;> rfl

theorem Accounted.append {first second : List Metric} {earlier later : List (Moment Time)}
    (before : Accounted first earlier) (after : Accounted second later) :
    Accounted (first ++ second) (earlier ++ later) where
  updates feed := by
    rw [List.count_append, List.countP_append, before.updates, after.updates]
  drops feed := by
    rw [List.count_append, List.countP_append, before.drops, after.drops]
  emitted := by
    rw [List.count_append, List.countP_append, before.emitted, after.emitted]
  handedOn := by
    rw [List.count_append, List.map_append, List.sum_append, before.handedOn, after.handedOn]
  ticks := by
    rw [List.count_append, List.count_append, List.count_append, List.countP_append, ← before.ticks,
      ← after.ticks]
    omega
  unheard := by
    rw [List.count_append, List.countP_append, before.unheard, after.unheard]
  timed := by
    rw [List.count_append, List.count_append, List.count_append, before.timed, after.timed]
    omega
  calls kind := by
    rw [List.count_append, List.countP_append, before.calls, after.calls]
  fails kind failure := by
    rw [List.count_append, List.countP_append, before.fails, after.fails]

/-- A step that may not be counted owes nothing. -/
theorem accounted_of_uncounted {step : Step Time} (uncounted : ¬step.Counted) (before : Board Time)
    (reply : Except BoardError Reply) : Accounted [] [Moment.mk before step reply] := by
  cases step with
  | update _ _ _ | message _ _ | tick | window _ _ | query _ _ | compile _ =>
      exact absurd trivial uncounted
  | _ => constructor <;> intros <;> rfl

def queryMetrics (kind : QueryKind) (failure : Option QueryFailure) (called : Bool) : List Metric :=
  (failure.map (Metric.queryError kind)).toList ++ if called then [.queryLatency kind] else []

/-- Only queries are counted as queries. -/
theorem count_query_metrics (kind : QueryKind) (failure : Option QueryFailure) (called : Bool)
    {metric : Metric} (notFailed : ∀ failure, metric ≠ .queryError kind failure)
    (notCalled : metric ≠ .queryLatency kind) :
    (queryMetrics kind failure called).count metric = 0 := by
  apply List.count_eq_zero.mpr
  intro member
  rcases List.mem_append.mp member with inFailures | inCalls
  · obtain ⟨ended, _, same⟩ := Option.map_eq_some_iff.mp (Option.mem_toList.mp inFailures)
    exact notFailed ended same.symm
  · split at inCalls
    · exact notCalled (List.mem_singleton.mp inCalls)
    · exact absurd inCalls List.not_mem_nil

theorem accounted_query {kind : QueryKind} {moment : Moment Time}
    (asks : moment.step.kind? = some kind) {called : Bool}
    (calls : ∀ other, moment.calls other = (called && other = kind)) :
    Accounted (queryMetrics kind moment.failure? called) [moment] := by
  have silent (feed : String) : moment.updates feed = false ∧ moment.drops feed = false ∧
      moment.report? = none := by
    obtain ⟨before, step, reply⟩ := moment
    cases step with
    | window _ _ | query _ _ | compile _ => exact ⟨rfl, rfl, rfl⟩
    | _ => cases asks
  have noTick := (silent "").2.2
  have absent {metric : Metric} := @count_query_metrics kind moment.failure? called metric
  constructor
  case updates =>
    intro feed
    simp [absent, silent]
  case drops =>
    intro feed
    simp [absent, silent]
  case emitted => simp [absent, Moment.emits, noTick]
  case handedOn => simp [absent, Moment.handsOn, noTick]
  case ticks => simp [absent, Moment.ends, noTick]
  case unheard => simp [absent, Moment.unheard, noTick]
  case timed => simp [absent]
  case calls =>
    intro other
    have noFailure : (moment.failure?.map (Metric.queryError kind)).toList.count
        (.queryLatency other) = 0 := by
      cases moment.failure? <;> rfl
    rw [queryMetrics, List.count_append, noFailure, Nat.zero_add, List.countP_singleton, calls]
    cases called with
    | false => rfl
    | true =>
        by_cases same : kind = other
        · simp [same]
        · simp [same, Ne.symm same]
  case fails =>
    intro other failure
    have noCall : (if called then [Metric.queryLatency kind] else []).count
        (.queryError other failure) = 0 := by
      cases called <;> rfl
    rw [queryMetrics, List.count_append, noCall, Nat.add_zero, List.countP_singleton, Moment.fails,
      asks]
    cases moment.failure? with
    | none => simp
    | some ended => simp [List.count_singleton]

/-- The failures of a call of the store are counted as they are told. -/
theorem call_metrics_eq {kind : QueryKind} {answer : Except HistoryError (List Snapshot)}
    (called : ∀ error, answer ≠ .error (.malformed error)) {moment : Moment Time}
    (told : moment.reply = (answer.mapError BoardError.history).map .snapshots) :
    History.callMetrics kind answer = queryMetrics kind moment.failure? true := by
  rw [Moment.failure?, told]
  cases answer with
  | ok snapshots => rfl
  | error error =>
      cases error with
      | malformed error => exact absurd rfl (called error)
      | _ => rfl

theorem window_cutoff_failure {choice : WindowChoice} {now : DateTime} {error : HistoryError}
    (failed : History.windowCutoff choice now = .error error) : error.failure? = none := by
  rcases error_of_bind failed with unread | ⟨window, _, untimely⟩
  · cases choice with
    | window window => exact nomatch unread
    | token token =>
        obtain ⟨_, _, rfl⟩ := error_of_map_error unread
        rfl
  · obtain ⟨_, _, rfl⟩ := error_of_map_error untimely
    rfl

end

namespace Board

variable {Time : Type} [Timeline Time]

/-! ### What is not counted -/

omit [Timeline Time] in
@[simp]
theorem count_nil (board : Board Time) : board.count [] = board := by
  rw [count, List.append_nil]

/-- Issuing a command counts nothing: readings are counted by those who ask for them. -/
theorem issue_metrics {metrics : List Metric} (deadline : Option Time) (command : Command)
    (board : Board Time) (same : board.metrics = metrics) :
    (host.issue deadline command board).1.metrics = metrics := by
  change (board.issue deadline command).1.metrics = metrics
  unfold issue
  cases deadline with
  | none => exact same
  | some deadline =>
      dsimp only
      split
      · exact same
      · exact same

theorem read_metrics (board : Board Time) (kind : QueryKind) (begin : Except TimeError Progress) :
    (board.read kind begin).1.metrics = board.metrics := by
  cases begin with
  | error error => rfl
  | ok progress => exact Reading.run_progress_keeps issue_metrics none rfl progress

theorem insert_metrics (board : Board Time) (snapshot : Snapshot) :
    (board.insert snapshot).1.metrics = board.metrics := by
  unfold insert attempt
  cases writes : (board.conditions .write).failure with
  | some message => simp only [writes]
  | none => cases trims : (board.conditions .trim).failure <;> simp only [writes, trims]

theorem publish_metrics (board : Board Time) (event : String) (snapshot : Snapshot) :
    (board.publish event snapshot).1.metrics = board.metrics := by
  unfold publish attempt
  cases publishes : (board.conditions .publish).failure <;> simp only [publishes]

theorem metrics_of_uncounted (board : Board Time) {step : Step Time} (uncounted : ¬step.Counted) :
    (board.step step).1.metrics = board.metrics := by
  cases step with
  | update _ _ _ | message _ _ | tick | window _ _ | query _ _ | compile _ =>
      exact absurd trivial uncounted
  | insert snapshot => exact insert_metrics board snapshot
  | publish event snapshot => exact publish_metrics board event snapshot
  | since cutoff => exact read_metrics board .window (.ok (.more (Reading.since cutoff)))
  | matching predicate limit =>
      exact read_metrics board .predicate (Reading.matching predicate limit board.settings.batch)
  | _ => rfl

/-! ### Reports and messages -/

/-- Where the counts grow by what a step and its reply are owed, they stay accounted for. -/
def Owes (board : Board Time) (step : Step Time) : Prop :=
  ∃ increments, (board.step step).1.metrics = board.metrics ++ increments ∧
    Accounted increments [Moment.mk board step (board.step step).2]

theorem owes_uncounted (board : Board Time) {step : Step Time} (uncounted : ¬step.Counted) :
    board.Owes step := by
  refine ⟨[], ?_, accounted_of_uncounted uncounted board _⟩
  rw [metrics_of_uncounted board uncounted, List.append_nil]

theorem owes_of (increments : List Metric) {board after : Board Time} {step : Step Time}
    {reply : Except BoardError Reply} (same : board.step step = (after, reply))
    (counted : after.metrics = board.metrics ++ increments)
    (accounted : Accounted increments [Moment.mk board step reply]) : board.Owes step := by
  refine ⟨increments, ?_, ?_⟩
  · rw [same]
    exact counted
  · rw [same]
    exact accounted

theorem owes_update (board : Board Time) (feed : String) (value : Float) (time : Option DateTime) :
    board.Owes (.update feed value time) := by
  by_cases known : feed ∈ board.quotes.feeds
  · have same : board.step (.update feed value time) =
        (({ board with quotes := (board.quotes.update feed value (time.getD board.now)).1 } :
          Board Time).count [.feedUpdate feed], .ok (.flag true)) := by
      simp only [step, update, Feed.update_known known]
    apply owes_of [.feedUpdate feed] same rfl
    constructor
    case updates =>
      intro other
      simp [Moment.updates, List.count_cons]
    all_goals intros; rfl
  · have same : board.step (.update feed value time) = (board, .ok (.flag false)) := by
      simp only [step, update, Feed.update_unknown known]
    apply owes_of [] same (List.append_nil _).symm
    constructor <;> intros <;> rfl

theorem owes_message (board : Board Time) (feed : String) (payload : Feed.Payload) :
    board.Owes (.message feed payload) := by
  cases read : Feed.readTrade payload with
  | error error =>
      have same : board.step (.message feed payload) = (board, .error (.trade error)) := by
        simp only [step, message, read]
        rfl
      apply owes_of [] same (List.append_nil _).symm
      constructor
      case drops =>
        intro other
        simp [Moment.drops, read]
      all_goals intros; rfl
  | ok found =>
      cases found with
      | none =>
          have same : board.step (.message feed payload) =
              (board.count [.messageDropped feed], .ok (.flag false)) := by
            simp only [step, message, read]
            rfl
          apply owes_of [.messageDropped feed] same rfl
          constructor
          case drops =>
            intro other
            simp [Moment.drops, read, List.count_cons]
          all_goals intros; rfl
      | some trade =>
          by_cases known : feed ∈ board.quotes.feeds
          · have same : board.step (.message feed payload) =
                ((board.update feed trade.price trade.time).1, .ok (.flag true)) := by
              simp only [step, message_of_trade read, update, Feed.update_known known]
              rfl
            apply owes_of [.feedUpdate feed] same
            · rw [update, Feed.update_known known]
              rfl
            constructor
            case updates =>
              intro other
              simp [Moment.updates, List.count_cons]
            case drops =>
              intro other
              simp [Moment.drops, read]
            all_goals intros; rfl
          · have same : board.step (.message feed payload) = (board, .ok (.flag false)) := by
              simp only [step, message_of_trade read, update, Feed.update_unknown known]
              rfl
            apply owes_of [] same (List.append_nil _).symm
            constructor
            case drops =>
              intro other
              simp [Moment.drops, read]
            all_goals intros; rfl

/-! ### Ticks -/

theorem owes_tick (board : Board Time) : board.Owes .tick := by
  have same : board.step .tick =
      (board.tick.1, board.tick.2.map (.tick · board.tick.1.store.index.members)) := rfl
  cases taken : board.quotes.take (.ok board.now) with
  | error error =>
      have raised : board.tick = (board, .error (.take error)) := by simp only [tick, taken]
      rw [raised] at same
      apply owes_of [] same (List.append_nil _).symm
      constructor <;> intros <;> rfl
  | ok found =>
      cases found with
      | none =>
          have skipped : board.tick = (board.count [.tick .incomplete], .ok ⟨none, [], []⟩) := by
            simp only [tick, taken]
          rw [skipped] at same
          apply owes_of [.tick .incomplete] same rfl
          constructor <;> intros <;> rfl
      | some snapshot =>
          have emitted : board.tick = ((board.emit snapshot).1, .ok (board.emit snapshot).2) := by
            simp only [tick, taken]
          have kept := insert_metrics board snapshot
          rw [emitted] at same
          unfold emit at same
          generalize board.insert snapshot = inserted at same kept
          obtain ⟨next, written⟩ := inserted
          cases written with
          | error error =>
              apply owes_of [.tick .persistFailed, .tickLatency] same
              · exact congrArg (· ++ [Metric.tick .persistFailed, .tickLatency]) kept
              constructor <;> intros <;> rfl
          | ok _ =>
              have after := publish_metrics { next with ready := true } newData snapshot
              dsimp only at same
              generalize publish { next with ready := true } newData snapshot = told at same after
              obtain ⟨last, heard⟩ := told
              have counts := after.trans kept
              cases heard with
              | error error =>
                  apply owes_of [.broadcastError, .tickLatency, .tick .emitted] same
                  · exact congrArg (· ++ [Metric.broadcastError, .tickLatency, .tick .emitted]) counts
                  constructor <;> intros <;> rfl
              | ok message =>
                  apply owes_of [.tickLatency, .tick .emitted] same
                  · exact congrArg (· ++ [Metric.tickLatency, .tick .emitted]) counts
                  constructor <;> intros <;> rfl

/-! ### Queries -/

section

variable (kind : QueryKind) (board : Board Time) (deadline : Option (Deadline Time))
  (begin : Except TimeError Progress)

theorem outcome_answer_not_malformed (written : String) (outcome : ReadOutcome)
    (error : Query.QueryError) :
    History.outcomeAnswer kind written outcome ≠ .error (.malformed error) := by
  cases outcome <;> simp [History.outcomeAnswer]

theorem limited_call_not_malformed (error : Query.QueryError) :
    (History.limitedCall host kind board deadline begin).2 ≠ .error (.malformed error) := by
  unfold History.limitedCall
  cases begin with
  | error error =>
      cases deadline with
      | none => simp
      | some deadline =>
          dsimp only
          split <;> simp
  | ok progress =>
      cases deadline with
      | none => exact outcome_answer_not_malformed kind _ _ error
      | some deadline =>
          dsimp only
          split
          · exact outcome_answer_not_malformed kind _ _ error
          · simp

end

/-- What a query that calls the store leaves behind. -/
theorem owes_call {board : Board Time} {step : Step Time} {kind : QueryKind}
    (asks : step.kind? = some kind) (deadline : Option (Deadline Time))
    (begin : Except TimeError Progress)
    (same : board.step step =
      ((afterRun (History.call host kind board deadline begin)).1,
        (afterRun (History.call host kind board deadline begin)).2.map .snapshots))
    (calls : ∀ other, Moment.calls other ⟨board, step, (board.step step).2⟩ = decide (other = kind)) :
    board.Owes step := by
  have counted : (History.limitedCall host kind board deadline begin).1.metrics = board.metrics :=
    History.limited_call_keeps issue_metrics rfl kind deadline begin
  have named := @call_metrics_eq Time kind _ (limited_call_not_malformed kind board deadline begin)
    ⟨board, step, (board.step step).2⟩ (by rw [same]; rfl)
  refine ⟨queryMetrics kind (Moment.failure? ⟨board, step, (board.step step).2⟩) true, ?_,
    accounted_query asks fun other => by rw [calls, Bool.true_and]⟩
  rw [← named, same]
  exact congrArg (· ++ History.callMetrics kind (History.limitedCall host kind board deadline begin).2)
    counted

theorem owes_no_call {board : Board Time} {step : Step Time} {kind : QueryKind}
    (asks : step.kind? = some kind)
    {increments : List Metric} {reply : Except BoardError Reply}
    (same : board.step step = (board.count increments, reply))
    (counted : increments = queryMetrics kind (Moment.failure? ⟨board, step, reply⟩) false)
    (quiet : ∀ other, Moment.calls other ⟨board, step, reply⟩ = false) : board.Owes step := by
  apply owes_of increments same rfl
  rw [counted]
  apply accounted_query asks
  intro other
  rw [quiet, Bool.false_and]

theorem owes_window (board : Board Time) (choice : WindowChoice) (deadline : Option (Deadline Time)) :
    board.Owes (.window choice deadline) := by
  cases resolved : History.windowCutoff choice board.now with
  | error error =>
      have same : board.step (.window choice deadline) =
          (board.count [], .error (.history error)) := by
        simp only [step, ofWindow, History.ofWindow, resolved]
        rfl
      apply owes_no_call rfl same
      · simp only [Moment.failure?, window_cutoff_failure resolved]
        rfl
      · intro other
        simp only [Moment.calls, resolved]
        exact Bool.and_false _
  | ok cutoff =>
      apply owes_call rfl deadline (.ok (.more (Reading.since cutoff)))
      · simp only [step, ofWindow, History.ofWindow, resolved]
      · intro other
        simp only [Moment.calls, resolved]
        exact Bool.and_true _

theorem owes_search (board : Board Time) (query : String) (deadline : Option (Deadline Time)) :
    board.Owes (.query query deadline) := by
  cases compiled : History.compile board.context query with
  | error error =>
      have same : board.step (.query query deadline) =
          (board.count [.queryError .predicate .malformed], .error (.history error)) := by
        simp only [step, search, History.search, compiled]
        rfl
      obtain ⟨malformed, rfl⟩ : ∃ malformed, error = .malformed malformed := by
        obtain ⟨malformed, _, same⟩ := error_of_map_error compiled
        exact ⟨malformed, same.symm⟩
      apply owes_no_call rfl same
      · rfl
      · intro other
        simp only [Moment.calls, compiled]
        exact Bool.and_false _
  | ok predicate =>
      have noCall {reply : Except BoardError Reply}
          (same : board.step (.query query deadline) = (board.count [], reply))
          (told : Moment.failure? ⟨board, .query query deadline, reply⟩ = none)
          (dead : (predicate.contradictory.toOption.any fun dead => !dead) = false) :
          board.Owes (.query query deadline) := by
        apply owes_no_call rfl same
        · rw [told]
          rfl
        · intro other
          have found : (Except.ok predicate : Except HistoryError Predicate).toOption =
              some predicate := rfl
          simp only [Moment.calls, compiled, found, Option.any_some, dead, Bool.and_false]
      cases contradictory : predicate.contradictory with
      | error error =>
          apply @noCall (.error (.history (.time error)))
          · simp only [step, search, History.search, compiled, contradictory]
            rfl
          · rfl
          · rw [contradictory]
            rfl
      | ok dead =>
          cases dead with
          | true =>
              apply @noCall (.ok (.snapshots []))
              · simp only [step, search, History.search, compiled, contradictory]
                rfl
              · rfl
              · rw [contradictory]
                rfl
          | false =>
              apply owes_call rfl deadline
                (Reading.matching predicate board.settings.limit board.settings.batch)
              · simp only [step, search, History.search, compiled, contradictory]
              · intro other
                simp only [Moment.calls, compiled, Except.toOption, Option.any_some, contradictory]
                exact Bool.and_true _

theorem owes_compile (board : Board Time) (query : String) : board.Owes (.compile query) := by
  cases compiled : History.compile board.context query with
  | error error =>
      have same : board.step (.compile query) =
          (board.count [.queryError .predicate .malformed], .error (.history error)) := by
        simp only [step, compile, compiled]
        rfl
      obtain ⟨malformed, _, rfl⟩ := error_of_map_error compiled
      exact owes_no_call rfl same rfl fun _ => rfl
  | ok predicate =>
      have same : board.step (.compile query) = (board.count [], .ok (.predicate predicate)) := by
        simp only [step, compile, compiled, count_nil]
        rfl
      exact owes_no_call rfl same rfl fun _ => rfl

/-- A step adds to the counts what it and its reply are owed. -/
theorem owes (board : Board Time) (step : Step Time) : board.Owes step := by
  cases step with
  | update feed value time => exact owes_update board feed value time
  | message feed payload => exact owes_message board feed payload
  | tick => exact owes_tick board
  | window choice deadline => exact owes_window board choice deadline
  | query query deadline => exact owes_search board query deadline
  | compile query => exact owes_compile board query
  | _ => exact owes_uncounted board id

/-! ### Runs -/

def moments (board : Board Time) : List (Step Time) → List (Moment Time)
  | [] => []
  | step :: steps => ⟨board, step, (board.step step).2⟩ :: (board.step step).1.moments steps

theorem moments_steps (board : Board Time) (steps : List (Step Time)) :
    (board.moments steps).map Moment.step = steps := by
  induction steps generalizing board with
  | nil => rfl
  | cons step steps induction => exact congrArg (step :: ·) (induction (board.step step).1)

theorem moments_replies (board : Board Time) (steps : List (Step Time)) :
    (board.moments steps).map Moment.reply = (board.run steps).2 := by
  induction steps generalizing board with
  | nil => rfl
  | cons step steps induction =>
      exact congrArg ((board.step step).2 :: ·) (induction (board.step step).1)

theorem run_accounted (board : Board Time) (steps : List (Step Time)) :
    ∃ increments, (board.run steps).1.metrics = board.metrics ++ increments ∧
      Accounted increments (board.moments steps) := by
  induction steps generalizing board with
  | nil => exact ⟨[], (List.append_nil _).symm, accounted_nil⟩
  | cons step steps induction =>
      obtain ⟨first, grown, firstAccounted⟩ := owes board step
      obtain ⟨rest, grownAgain, restAccounted⟩ := induction (board.step step).1
      refine ⟨first ++ rest, ?_, firstAccounted.append restAccounted⟩
      rw [run, grownAgain, grown, List.append_assoc]

/-- A moment of a run is the step after the steps before it. -/
theorem mem_moments {board : Board Time} {steps : List (Step Time)} {moment : Moment Time}
    (member : moment ∈ board.moments steps) : ∃ earlier later,
      steps = earlier ++ moment.step :: later ∧ moment.before = (board.run earlier).1 ∧
        moment.reply = (moment.before.step moment.step).2 := by
  induction steps generalizing board with
  | nil => exact absurd member List.not_mem_nil
  | cons step steps induction =>
      rcases List.mem_cons.mp member with rfl | afterwards
      · exact ⟨[], steps, rfl, rfl, rfl⟩
      · obtain ⟨earlier, later, rfl, met, reply⟩ := induction afterwards
        exact ⟨step :: earlier, later, rfl, met, reply⟩

/-- A run's clock shows what it was set to last. -/
theorem run_now_mem (board : Board Time) (steps : List (Step Time)) :
    (board.run steps).1.now ∈ board.now :: steps.filterMap Step.clock? := by
  induction steps generalizing board with
  | nil => exact List.mem_cons_self
  | cons step steps induction =>
      have next := induction (board.step step).1
      rw [step_now] at next
      cases set : step.clock? with
      | none =>
          rw [set] at next
          rw [List.filterMap_cons_none set]
          exact next
      | some now =>
          rw [set] at next
          rw [List.filterMap_cons_some set]
          exact List.mem_cons_of_mem _ next

/-- A tick raises exactly where the snapshot is complete and UTC cannot show its time. -/
theorem tick_ends_iff {board : Board Time} {feeds : List String} {reported : List (String × Float)}
    (reflects : board.quotes.Reflects feeds reported) (distinct : feeds.Nodup) :
    (∃ report, board.tick.2 = .ok report) ↔
      (∃ feed ∈ feeds, feed ∉ names reported) ∨ ∃ utc, board.now.toUtc = .ok utc := by
  obtain ⟨complete, shows⟩ := Feed.exists_shown reflects distinct
  cases complete with
  | none =>
      have silent := shows.incomplete.mp rfl
      exact ⟨fun _ => .inl silent, fun _ => ⟨_, (tick_incomplete shows.answer).2⟩⟩
  | some values =>
      have heard : ¬∃ feed ∈ feeds, feed ∉ names reported := fun silent =>
        Option.some_ne_none values (shows.incomplete.mpr silent)
      unfold tick Feed.Quotes.take
      simp only [shows.answer, Except.bind, Snapshot.make, heard, false_or]
      cases board.now.toUtc with
      | error error => simp [Except.map, Except.mapError]
      | ok utc => simp [Except.map, Except.mapError]

theorem ends_iff {moment : Moment Time}
    (replied : moment.reply = (moment.before.step moment.step).2) :
    moment.ends = true ↔
      moment.step.isTick = true ∧ ∃ report, moment.before.tick.2 = .ok report := by
  obtain ⟨before, step, reply⟩ := moment
  dsimp only at replied
  subst replied
  cases step with
  | tick =>
      have replied : (before.step .tick).2 =
          before.tick.2.map (.tick · before.tick.1.store.index.members) := rfl
      rw [Moment.ends, Moment.report?, replied]
      cases before.tick.2 with
      | error error => simp [Except.map]
      | ok report => simp [Except.map, Step.isTick]
  | _ => simp [Moment.ends, Moment.report?, Step.isTick]

/-- The counts of any run are those of its steps and replies. A tick is not counted where it raises, which
takes complete quotes and a clock whose time UTC cannot show; with any other clock every tick is counted. -/
theorem counts_match_steps (settings : BoardSettings) {feeds : List String} (distinct : feeds.Nodup)
    (now : DateTime) (steps : List (Step Time)) :
    let board : Board Time := start settings feeds now
    let metrics := (board.run steps).1.metrics
    (board.moments steps).map Moment.step = steps ∧
      (board.moments steps).map Moment.reply = (board.run steps).2 ∧
      Accounted metrics (board.moments steps) ∧
      (∀ earlier later, steps = earlier ++ .tick :: later →
        ((∃ report, (board.run earlier).1.tick.2 = .ok report) ↔
          (∃ feed ∈ feeds, feed ∉ names (reports earlier)) ∨
            ∃ utc, (board.run earlier).1.now.toUtc = .ok utc)) ∧
      ((∀ clock ∈ now :: steps.filterMap Step.clock?, ∃ utc, clock.toUtc = .ok utc) →
        metrics.count (.tick .emitted) + metrics.count (.tick .incomplete) +
          metrics.count (.tick .persistFailed) = steps.countP Step.isTick) := by
  intro board metrics
  obtain ⟨increments, grown, accounted⟩ := run_accounted board steps
  have same : metrics = increments := grown
  rw [← same] at accounted
  have reflects (earlier : List (Step Time)) :
      (board.run earlier).1.quotes.Reflects feeds (reports earlier) :=
    start_reflects settings feeds now earlier
  refine ⟨moments_steps board steps, moments_replies board steps, accounted,
    fun earlier later _ => tick_ends_iff (reflects earlier) distinct, ?_⟩
  intro shown
  rw [accounted.ticks]
  conv_rhs => rw [← moments_steps board steps, List.countP_map]
  apply List.countP_congr
  intro moment member
  obtain ⟨earlier, later, split, met, replied⟩ := mem_moments member
  rw [ends_iff replied, Function.comp_apply, and_iff_left_iff_imp]
  intro _
  rw [met, tick_ends_iff (reflects earlier) distinct]
  apply Or.inr
  apply shown
  have last := run_now_mem board earlier
  rw [split, List.filterMap_append]
  rw [List.mem_cons] at last ⊢
  exact last.imp_right (List.mem_append_left _)

/-- A tick too early, one that is not heard, one that cannot write, and a late query. -/
def troubledSteps : List (Step Rat) := [
  .tick, .update "bitcoin" 1.5 none, .fail .publish (some "refused"), .tick,
  .fail .write (some "refused"), .tick, .delay .ascending 2,
  .window (.window Window.default) (some ⟨1, "1"⟩), .compile ""]

theorem counts_match_steps_in_trouble :
    ["bitcoin"].Nodup ∧ ∃ board : Board Rat,
      board = ((start ⟨60, 500, 1000⟩ ["bitcoin"]
        ⟨⟨63840000002000100, by decide⟩, some Offset.utc⟩).run troubledSteps).1 ∧
      board.metrics.count (.tick .emitted) + board.metrics.count (.tick .incomplete) +
        board.metrics.count (.tick .persistFailed) = 3 ∧
      board.metrics.count .broadcastError = 1 ∧
      board.metrics.count (.queryError .window .timeout) = 1 := by
  have distinct : ["bitcoin"].Nodup := by decide
  obtain ⟨_, _, accounted, _, ticks⟩ := counts_match_steps ⟨60, 500, 1000⟩ distinct
    ⟨⟨63840000002000100, by decide⟩, some Offset.utc⟩ troubledSteps
  refine ⟨distinct, _, rfl, ?_, ?_, ?_⟩
  · apply ticks
    intro clock member
    fin_cases member
    exact ⟨_, rfl⟩
  · rw [accounted.unheard]
    rfl
  · rw [accounted.fails]
    decide +kernel

theorem first_bounded : 0 < dayLimit * microsPerDay := by decide

/-- The first moment of the calendar, on a clock an hour ahead of UTC. -/
def beforeUtc : DateTime := ⟨⟨0, first_bounded⟩, some ⟨3600000000, by decide⟩⟩

/-- A tick that raises is counted nowhere. -/
theorem raising_tick_uncounted :
    let board : Board Rat := start ⟨3600, 500, 100⟩ ["bitcoin"] beforeUtc
    let steps : List (Step Rat) := [.update "bitcoin" 1.5 none, .tick]
    let metrics := (board.run steps).1.metrics
    metrics = [.feedUpdate "bitcoin"] ∧
      metrics.count (.tick .emitted) + metrics.count (.tick .incomplete) +
        metrics.count (.tick .persistFailed) ≠ steps.countP Step.isTick := by
  intro board steps metrics
  have counted : metrics = [.feedUpdate "bitcoin"] := rfl
  refine ⟨counted, ?_⟩
  rw [counted]
  decide

end Board

end PriceBoard
