import PriceBoard.Proofs.Board.Durations
import PriceBoard.Proofs.Board.Steps
import PriceBoard.Proofs.Board.Window
import PriceBoard.Proofs.Hosts
import PriceBoard.Proofs.Query.Awareness

/-!
# What slowness and failures replace

The commands of a query depend on the store only. The first of them that fails puts its failure in the
place of the answer. If the commands take longer together than the query may last, its time is over
instead. Whenever there is an answer, it is the one of a query that nothing disturbs.
-/
namespace PriceBoard

/-! ### Queries -/

inductive Inquiry where
  | window (choice : WindowChoice)
  | text (query : String)

namespace Inquiry

def kind : Inquiry → QueryKind
  | .window _ => .window
  | .text _ => .predicate

section

variable {Time World : Type} [Timeline Time]

def ask (host : Host Time World) (board : Board Time) (world : World)
    (deadline : Option (Deadline Time)) : Inquiry → History.Run World
  | .window choice => History.ofWindow host board.now world choice deadline
  | .text query => History.search host board.context board.settings.limit board.settings.batch world
      query deadline

def Resolves (board : Board Time) : Inquiry → Prop
  | .window choice => ∃ cutoff, History.windowCutoff choice board.now = .ok cutoff
  | .text query => ∃ predicate, History.compile board.context query = .ok predicate

def begins (board : Board Time) : Inquiry → Except HistoryError Progress
  | .window choice =>
    (History.windowCutoff choice board.now).map fun cutoff => .more (Reading.since cutoff)
  | .text query => (History.compile board.context query).bind fun predicate =>
    (Reading.matching predicate board.settings.limit board.settings.batch).mapError .time

def stop (clock : Time) (deadline : Option (Deadline Time)) : Option Time :=
  deadline.map fun given => clock + given.limit

def written (deadline : Option (Deadline Time)) : String :=
  (deadline.map (·.written)).getD ""

def ended (host : Host Time World) (world : World) (deadline : Option (Deadline Time))
    (progress : Progress) : World × ReadOutcome :=
  Reading.runProgress host (stop (host.clock world) deadline) world progress

variable (host : Host Time World) {board : Board Time} (world : World) {inquiry : Inquiry}
  {deadline : Option (Deadline Time)}
  (positive : ∀ given ∈ deadline, 0 < given.limit)
include positive

theorem limited_call_begun (kind : QueryKind) (progress : Progress) :
    History.limitedCall host kind world deadline (.ok progress) =
      ((ended host world deadline progress).1, History.outcomeAnswer kind (written deadline)
        (ended host world deadline progress).2) := by
  cases deadline with
  | none => rfl
  | some given => exact if_pos (positive given rfl)

theorem limited_call_refused (kind : QueryKind) (error : TimeError) :
    History.limitedCall host kind world deadline (.error error) =
      (world, .error (.time error)) := by
  cases deadline with
  | none => rfl
  | some given => exact if_pos (positive given rfl)

/-- A query that asks the store for something ends as its reading does. -/
theorem ask_begun {progress : Progress} (begun : inquiry.begins board = .ok progress) :
    (inquiry.ask host board world deadline).world = (ended host world deadline progress).1 ∧
      (inquiry.ask host board world deadline).answer = History.outcomeAnswer inquiry.kind
        (written deadline) (ended host world deadline progress).2 := by
  have called (kind : QueryKind) := limited_call_begun host world positive kind progress
  cases inquiry with
  | window choice =>
      obtain ⟨cutoff, resolved, rfl⟩ := ok_of_map begun
      simp only [ask, History.ofWindow, resolved, History.call, called]
      exact ⟨trivial, rfl⟩
  | text query =>
      obtain ⟨predicate, compiled, matched⟩ := ok_of_bind begun
      have matching := ok_of_map_error matched
      cases checked : predicate.contradictory with
      | error error => simp [Reading.matching, checked] at matching
      | ok dead =>
          cases dead with
          | true =>
              rw [Reading.begin_dead checked] at matching
              cases matching
              simp only [ask, History.search, compiled, checked]
              exact ⟨rfl, rfl⟩
          | false =>
              simp only [ask, History.search, compiled, checked, matching, History.call, called]
              exact ⟨trivial, rfl⟩

/-- A query that asks the store for nothing does not reach it. -/
theorem ask_refused {error : HistoryError} (refused : inquiry.begins board = .error error) :
    (inquiry.ask host board world deadline).world = world ∧
      (inquiry.ask host board world deadline).answer = .error error := by
  cases inquiry with
  | window choice =>
      obtain ⟨cause, unresolved⟩ := error_of_map_iff.mp ⟨error, refused⟩
      rw [begins, unresolved] at refused
      cases refused
      simp only [ask, History.ofWindow, unresolved]
      exact ⟨rfl, rfl⟩
  | text query =>
      rcases error_of_bind refused with malformed | ⟨predicate, compiled, unmatched⟩
      · simp only [ask, History.search, malformed]
        exact ⟨trivial, trivial⟩
      · obtain ⟨cause, unbounded, rfl⟩ := error_of_map_error unmatched
        cases checked : predicate.contradictory with
        | error first =>
            rw [Reading.matching, checked] at unbounded
            cases unbounded
            simp only [ask, History.search, compiled, checked]
            exact ⟨rfl, rfl⟩
        | ok dead =>
            cases dead with
            | true =>
                rw [Reading.begin_dead checked] at unbounded
                cases unbounded
            | false =>
                simp only [ask, History.search, compiled, checked, unbounded, History.call,
                  limited_call_refused host world positive]
                exact ⟨trivial, trivial⟩

end

/-! ### Disturbed queries -/

def asked (inquiry : Inquiry) (board : Board ℚ) (pattern : Pattern ℚ)
    (deadline : Option (Deadline ℚ)) : History.Run (Logged (Patterned ℚ)) :=
  inquiry.ask Patterned.host.logged board ⟨⟨board, pattern⟩, []⟩ deadline

def undisturbed (inquiry : Inquiry) (board : Board ℚ) : History.Run (Logged (Patterned ℚ)) :=
  inquiry.asked board (fun _ => Conditions.calm) none

/-- The time until the first command fails, or else until all have answered. -/
def span (inquiry : Inquiry) (board : Board ℚ) (pattern : Pattern ℚ) : ℚ :=
  pattern.duration (pattern.throughFailure (inquiry.undisturbed board).world.issued)

/-- The answer of the undisturbed query, or what stands in its place. -/
structure Replaced (inquiry : Inquiry) (board : Board ℚ) (pattern : Pattern ℚ)
    (deadline : Option (Deadline ℚ)) : Prop where
  answers : (∀ given ∈ deadline, inquiry.span board pattern < given.limit) →
    pattern.failure? (inquiry.undisturbed board).world.issued = none →
      (inquiry.asked board pattern deadline).answer = (inquiry.undisturbed board).answer
  fails : (∀ given ∈ deadline, inquiry.span board pattern < given.limit) →
    ∀ message, pattern.failure? (inquiry.undisturbed board).world.issued = some message →
      (inquiry.asked board pattern deadline).answer = .error (.storage inquiry.kind message)
  timesOut : ∀ given ∈ deadline, given.limit < inquiry.span board pattern →
    (inquiry.asked board pattern deadline).answer = .error (.timedOut inquiry.kind given.written)
  store : (inquiry.asked board pattern deadline).world.world.board.store = board.store
  quotes : (inquiry.asked board pattern deadline).world.world.board.quotes = board.quotes

variable {inquiry : Inquiry} {board : Board ℚ} {pattern : Pattern ℚ}
  {deadline : Option (Deadline ℚ)} {progress : Progress}

/-! The store and the quotes stay. -/

def Holds (board : Board ℚ) (logged : Logged (Patterned ℚ)) : Prop :=
  logged.world.board.store = board.store ∧ logged.world.board.quotes = board.quotes

theorem issue_holds (limit : Option ℚ) (command : Command) (logged : Logged (Patterned ℚ))
    (holds : Holds board logged) : Holds board (Patterned.host.logged.issue limit command logged).1 := by
  have rests := Board.rests_issue limit command
    { logged.world.board with conditions := logged.world.pattern 0 }
  exact ⟨rests.store.trans holds.1, rests.quotes.trans holds.2⟩

theorem asked_holds (inquiry : Inquiry) (board : Board ℚ) (pattern : Pattern ℚ)
    (deadline : Option (Deadline ℚ)) :
    Holds board (inquiry.asked board pattern deadline).world := by
  have begins : Holds board ⟨⟨board, pattern⟩, []⟩ := ⟨rfl, rfl⟩
  cases inquiry with
  | window choice => exact History.of_window_keeps issue_holds begins board.now choice deadline
  | text query => exact History.search_keeps issue_holds begins board.context _ _ query deadline

/-! The answer comes from the course of the commands and from what becomes of them. -/

def needed (board : Board ℚ) (progress : Progress) : List Command :=
  progress.course board.store (2 * board.store.index.length + 2)

def outcome (board : Board ℚ) (progress : Progress) : ReadOutcome :=
  progress.outcome board.store (2 * board.store.index.length + 2)

theorem ended_outcome (board : Board ℚ) (pattern : Pattern ℚ) (deadline : Option (Deadline ℚ))
    (progress : Progress) :
    (ended Patterned.host.logged ⟨⟨board, pattern⟩, []⟩ deadline progress).2 =
      (outcome board progress).after
        (pattern.fate (stop board.clock deadline) board.clock (needed board progress)) := by
  cases progress with
  | done snapshots => rfl
  | more reading =>
      have same := Reading.run_logged Patterned.host (stop board.clock deadline)
        (2 * board.store.index.length + 2) ⟨⟨board, pattern⟩, []⟩ reading
      refine (congrArg Prod.snd same).trans ?_
      exact Patterned.run_eq_fate _ _ _ reading

theorem ended_issued (board : Board ℚ) (pattern : Pattern ℚ) (progress : Progress) :
    (ended Patterned.host.logged ⟨⟨board, pattern⟩, []⟩ none progress).1.issued =
      pattern.throughFailure (needed board progress) := by
  cases progress with
  | done snapshots => rfl
  | more reading => exact Patterned.run_issues _ ⟨board, pattern⟩ [] reading

theorem unlimited : ∀ given ∈ (none : Option (Deadline ℚ)), 0 < given.limit := nofun

/-- Without a time limit the query issues its commands up to the first that fails. -/
theorem asked_issued (pattern : Pattern ℚ) (begun : inquiry.begins board = .ok progress) :
    (inquiry.asked board pattern none).world.issued =
      pattern.throughFailure (needed board progress) := by
  have asked := (ask_begun Patterned.host.logged ⟨⟨board, pattern⟩, []⟩ unlimited begun).1
  rw [Inquiry.asked, asked, ended_issued]

theorem undisturbed_issued (begun : inquiry.begins board = .ok progress) :
    (inquiry.undisturbed board).world.issued = needed board progress := by
  rw [undisturbed, asked_issued _ begun, Pattern.through_failure_calm]

theorem asked_answer (pattern : Pattern ℚ) (positive : ∀ given ∈ deadline, 0 < given.limit)
    (begun : inquiry.begins board = .ok progress) :
    (inquiry.asked board pattern deadline).answer = History.outcomeAnswer inquiry.kind
      (written deadline) ((outcome board progress).after
        (pattern.fate (stop board.clock deadline) board.clock (needed board progress))) := by
  have asked := (ask_begun Patterned.host.logged ⟨⟨board, pattern⟩, []⟩ positive begun).2
  rw [Inquiry.asked, asked, ended_outcome]

theorem undisturbed_answer (begun : inquiry.begins board = .ok progress) :
    (inquiry.undisturbed board).answer =
      History.outcomeAnswer inquiry.kind "" (outcome board progress) := by
  rw [undisturbed, asked_answer _ unlimited begun, stop, Option.map_none, Pattern.fate_unlimited,
    Pattern.failure_calm]
  rfl

/-- Where all commands answer, no time is over. -/
theorem outcome_in_time (board : Board ℚ) (progress : Progress) :
    outcome board progress ≠ .outOfTime := by
  cases progress with
  | done snapshots => exact ReadOutcome.noConfusion
  | more reading =>
      unfold outcome
      generalize 2 * board.store.index.length + 2 = budget
      induction budget generalizing reading with
      | zero => exact ReadOutcome.noConfusion
      | succ budget induction =>
          rw [Progress.outcome, Reading.outcome]
          cases reading.advance board.store with
          | error error => exact ReadOutcome.noConfusion
          | ok progress =>
              cases progress with
              | done snapshots => exact ReadOutcome.noConfusion
              | more next => exact induction next

/-- Only the end of the time shows the time limit. -/
theorem outcome_answer_written (kind : QueryKind) (written : String) (board : Board ℚ)
    (progress : Progress) : History.outcomeAnswer kind written (outcome board progress) =
      History.outcomeAnswer kind "" (outcome board progress) := by
  have inTime := outcome_in_time board progress
  cases ends : outcome board progress with
  | outOfTime => exact absurd ends inTime
  | found snapshots => rfl
  | refused message => rfl
  | failed error => rfl
  | unfinished => rfl

theorem fate_in_time (forward : pattern.Forward) {commands : List Command}
    (inTime : ∀ given ∈ deadline, pattern.duration (pattern.throughFailure commands) < given.limit) :
    pattern.fate (stop board.clock deadline) board.clock commands =
      Issued.ofFailure (pattern.failure? commands) := by
  cases deadline with
  | none => exact Pattern.fate_unlimited pattern board.clock commands
  | some given => exact Pattern.fate_before forward (add_lt_add_right (inTime given rfl) board.clock)

theorem replaced_of_begun (forward : pattern.Forward)
    (positive : ∀ given ∈ deadline, 0 < given.limit) (begun : inquiry.begins board = .ok progress) :
    inquiry.Replaced board pattern deadline := by
  obtain ⟨store, quotes⟩ := asked_holds inquiry board pattern deadline
  have issued := undisturbed_issued begun
  have answer := asked_answer pattern positive begun
  refine ⟨fun inTime answers => ?_, fun inTime message fails => ?_, fun given isGiven late => ?_,
    store, quotes⟩
  · rw [span, issued] at inTime
    rw [issued] at answers
    rw [answer, fate_in_time forward inTime, answers, undisturbed_answer begun]
    exact outcome_answer_written inquiry.kind (written deadline) board progress
  · rw [span, issued] at inTime
    rw [issued] at fails
    rw [answer, fate_in_time forward inTime, fails]
    rfl
  · rw [span, issued] at late
    cases isGiven
    have begins : board.clock < board.clock + given.limit :=
      lt_add_of_pos_right _ (positive given rfl)
    have beyond := add_lt_add_right late board.clock
    rw [answer]
    simp only [stop, Option.map_some, Pattern.fate_beyond forward begins beyond]
    rfl

/-- A query that asks the store for nothing issues no command. -/
theorem refused_issued (pattern : Pattern ℚ) {error : HistoryError}
    (refused : inquiry.begins board = .error error) :
    (inquiry.asked board pattern none).world.issued = [] :=
  congrArg Logged.issued
    (ask_refused Patterned.host.logged ⟨⟨board, pattern⟩, []⟩ unlimited refused).1

theorem replaced_of_refused (positive : ∀ given ∈ deadline, 0 < given.limit) {error : HistoryError}
    (refused : inquiry.begins board = .error error) : inquiry.Replaced board pattern deadline := by
  obtain ⟨store, quotes⟩ := asked_holds inquiry board pattern deadline
  have answer := (ask_refused Patterned.host.logged ⟨⟨board, pattern⟩, []⟩ positive refused).2
  have undisturbed := (ask_refused Patterned.host.logged ⟨⟨board, fun _ => Conditions.calm⟩, []⟩
    unlimited refused).2
  have issued : (inquiry.undisturbed board).world.issued = [] := refused_issued _ refused
  refine ⟨fun _ _ => ?_, fun _ message failed => ?_, fun given isGiven late => ?_, store, quotes⟩
  · exact answer.trans undisturbed.symm
  · rw [issued] at failed
    exact nomatch failed
  · rw [span, issued] at late
    exact absurd late (positive given isGiven).not_gt

/-- A query that resolves finds what it asks for, if nothing disturbs it. -/
theorem undisturbed_found (reachable : board.store.Reachable) (aware : board.now.isAware = true)
    (resolves : inquiry.Resolves board) : ∃ found, (inquiry.undisturbed board).answer = .ok found := by
  have wellformed := Store.reachable_wellformed reachable
  have begins : ∃ progress found, inquiry.begins board = .ok progress ∧
      outcome board progress = .found found := by
    cases inquiry with
    | window choice =>
        obtain ⟨cutoff, resolved⟩ := resolves
        exact ⟨_, _, congrArg (Except.map _) resolved, Reading.outcome_since wellformed cutoff _⟩
    | text query =>
        obtain ⟨predicate, compiled⟩ := resolves
        have predicateAware := Query.compile_aware aware (ok_of_map_error compiled)
        obtain ⟨progress, found, matched, ends, _⟩ := Reading.matching_ends wellformed predicateAware
          board.settings.limit board.settings.batch
        refine ⟨progress, found, ?_, ends⟩
        rw [Inquiry.begins, compiled]
        exact congrArg (Except.mapError HistoryError.time) matched
  obtain ⟨progress, found, begun, ends⟩ := begins
  refine ⟨found, ?_⟩
  rw [undisturbed_answer begun, ends]
  rfl

/-- The commands that a query issues before the first failure are those of the undisturbed query. -/
theorem issued_through_failure (inquiry : Inquiry) (board : Board ℚ) (pattern : Pattern ℚ) :
    (inquiry.asked board pattern none).world.issued =
      pattern.throughFailure (inquiry.undisturbed board).world.issued := by
  cases begun : inquiry.begins board with
  | error error =>
      rw [undisturbed, refused_issued _ begun, refused_issued _ begun]
      rfl
  | ok progress => rw [asked_issued _ begun, undisturbed_issued begun]

/-- Whatever the delays and failures of its commands, a query answers what it answers undisturbed, or a
failure or the end of its time stands in the place of that answer. -/
theorem disturbances_replace_answers (inquiry : Inquiry) (board : Board ℚ) :
    (board.store.Reachable → board.now.isAware = true → inquiry.Resolves board →
      ∃ found, (inquiry.undisturbed board).answer = .ok found) ∧
    ∀ pattern : Pattern ℚ, pattern.Forward →
      (inquiry.asked board pattern none).world.issued =
          pattern.throughFailure (inquiry.undisturbed board).world.issued ∧
        ∀ deadline : Option (Deadline ℚ), (∀ given ∈ deadline, 0 < given.limit) →
          inquiry.Replaced board pattern deadline := by
  refine ⟨undisturbed_found, fun pattern forward =>
    ⟨issued_through_failure inquiry board pattern, fun deadline positive => ?_⟩⟩
  cases begun : inquiry.begins board with
  | error error => exact replaced_of_refused positive begun
  | ok progress => exact replaced_of_begun forward positive begun

/-- The index answers after four seconds. The records are lost three seconds later. -/
def failsAtSeven : Pattern ℚ := fun count _ =>
  if count = 0 then ⟨4, none⟩ else ⟨3, some "connection reset"⟩

theorem fails_at_seven_forward : failsAtSeven.Forward := by
  intro count command
  unfold failsAtSeven
  split <;> norm_num

def lastMinute : Inquiry := .window (.token (some "1m"))

theorem last_minute_issued :
    (lastMinute.undisturbed Board.halfMsLater).world.issued = [.ascending, .load] := by
  have begun : lastMinute.begins Board.halfMsLater =
      .ok (.more (Reading.since Board.halfMsCutoff)) :=
    congrArg (Except.map fun cutoff => Progress.more (Reading.since cutoff))
      Board.half_ms_cutoff_resolved
  have named : Board.halfMsLater.store.index.ascendingFrom Board.halfMsCutoff.epochMs ≠ [] :=
    List.cons_ne_nil _ _
  rw [undisturbed_issued begun]
  exact Reading.course_since named 2

theorem disturbances_replace_answers_at_seven :
    failsAtSeven.Forward ∧ (0 : ℚ) < 8 ∧ (0 : ℚ) < 6 ∧
      (∃ found, (lastMinute.undisturbed Board.halfMsLater).answer = .ok found) ∧
      (lastMinute.asked Board.halfMsLater failsAtSeven (some ⟨8, "8"⟩)).answer =
        .error (.storage .window "connection reset") ∧
      (lastMinute.asked Board.halfMsLater failsAtSeven (some ⟨6, "6"⟩)).answer =
        .error (.timedOut .window "6") := by
  have longer : (0 : ℚ) < 8 := by norm_num
  have shorter : (0 : ℚ) < 6 := by norm_num
  obtain ⟨found, replaced⟩ := disturbances_replace_answers lastMinute Board.halfMsLater
  obtain ⟨_, limited⟩ := replaced failsAtSeven fails_at_seven_forward
  have span : lastMinute.span Board.halfMsLater failsAtSeven = 7 := by
    rw [Inquiry.span, last_minute_issued]
    norm_num [Pattern.throughFailure, Pattern.duration, Pattern.next, failsAtSeven]
  have fails : failsAtSeven.failure? (lastMinute.undisturbed Board.halfMsLater).world.issued =
      some "connection reset" := by
    rw [last_minute_issued]
    rfl
  refine ⟨fails_at_seven_forward, longer, shorter,
    found Board.half_ms_later_reachable rfl ⟨_, Board.half_ms_cutoff_resolved⟩, ?_, ?_⟩
  · have inTime : ∀ given ∈ some (⟨8, "8"⟩ : Deadline ℚ),
        lastMinute.span Board.halfMsLater failsAtSeven < given.limit := by
      rintro _ ⟨⟩
      rw [span]
      norm_num
    exact (limited _ (by rintro _ ⟨⟩; exact longer)).fails inTime _ fails
  · have late : (6 : ℚ) < lastMinute.span Board.halfMsLater failsAtSeven := by
      rw [span]
      norm_num
    exact (limited _ (by rintro _ ⟨⟩; exact shorter)).timesOut _ rfl late

end Inquiry

end PriceBoard
