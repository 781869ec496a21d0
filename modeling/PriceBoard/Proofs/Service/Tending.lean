import PriceBoard.Proofs.Board.Steps
import PriceBoard.Proofs.Ticker.Turns
import PriceBoard.Proofs.Web.Sites
import PriceBoard.Service.Run

/-!
# A service between two events

While a service runs, its loop is in a tick exactly while the store is on an errand for it, and the loop
has ended only where the clock showed no time that a snapshot can have or no deadline followed.
-/
namespace PriceBoard

open Feed (Activity)

def Errand.stage : Errand → Stage
  | .write _ | .trim _ => .writing
  | .publish _ => .publishing

/-- How many errands the tick takes at most, this one included. -/
def Errand.left : Errand → ℕ
  | .write _ => 3
  | .trim _ => 2
  | .publish _ => 1

def ServiceNote.raised? : ServiceNote → Option TickError
  | .stopFailed error => some error
  | _ => none

/-- What a loop can end with: the clock shows no time that UTC can show, or no deadline follows. -/
inductive LoopError {Time : Type} [Timeline Time] (interval : Time) (opening : DateTime) :
    TickError → Prop
  | clock {time : Time} {error : TimeError}
      (unshown : (opening.plusMicros (Timeline.micros time)).bind DateTime.toUtc = .error error) :
      LoopError interval opening (.take (.time error))
  | deadline {deadline now : Time} {error : TickError}
      (without : Ticker.nextDeadline interval deadline now = .error error) :
      LoopError interval opening error

/-- Part of a turn that changes the board at most, and not its quotes. -/
def Ticker.Effect.Plain : Ticker.Effect → Prop
  | .count _ | .emit _ => True
  | _ => False

namespace Service

section

variable {Time : Type} {service before between after : Service Time} {deadline : Time} {errand : Errand}

def raised (service : Service Time) : List TickError := service.notes.filterMap (·.2.raised?)

/-- At most the board and what has been seen have changed; the board has kept its quotes, and no stop has
raised an error. -/
def Rests (before after : Service Time) : Prop :=
  ∃ board clients connections notes, board.quotes = before.board.quotes ∧
    notes.filterMap (·.2.raised?) = before.raised ∧
    after = { before with board, clients, connections, notes }

theorem Rests.refl (service : Service Time) : service.Rests service :=
  ⟨service.board, service.clients, service.connections, service.notes, rfl, rfl, rfl⟩

theorem Rests.trans (first : before.Rests between) (second : between.Rests after) :
    before.Rests after := by
  obtain ⟨_, _, _, _, quotes, raised, rfl⟩ := first
  obtain ⟨board, clients, connections, notes, sameQuotes, sameRaised, rfl⟩ := second
  exact ⟨board, clients, connections, notes, sameQuotes.trans quotes, sameRaised.trans raised, rfl⟩

/-- Another board with the same quotes. -/
theorem rests_board {board : Board Time} (same : board.quotes = service.board.quotes) :
    service.Rests { service with board } :=
  ⟨board, service.clients, service.connections, service.notes, same, rfl, rfl⟩

theorem rests_clients (clients : List (Client Time)) : service.Rests { service with clients } :=
  ⟨service.board, clients, service.connections, service.notes, rfl, rfl, rfl⟩

structure Resting (service : Service Time) : Prop where
  outside : service.ticker.loop.inTick = false
  idle : service.ticker.current = none
  nothing : service.owed = none

structure Working (service : Service Time) (deadline : Time) (errand : Errand) : Prop where
  inside : service.ticker.loop = .ticking deadline
  running : ∃ snapshot, service.ticker.current = some ⟨.loop, snapshot, errand.stage⟩
  owed : ∃ time, service.owed = some (time, errand)

theorem Resting.rests (resting : before.Resting) (rests : before.Rests after) : after.Resting := by
  obtain ⟨_, _, _, _, _, _, rfl⟩ := rests
  exact ⟨resting.outside, resting.idle, resting.nothing⟩

theorem Working.rests (working : before.Working deadline errand) (rests : before.Rests after) :
    after.Working deadline errand := by
  obtain ⟨_, _, _, _, _, _, rfl⟩ := rests
  exact ⟨working.inside, working.running, working.owed⟩

end

section

variable {Time : Type} [Timeline Time] {service before after : Service Time} {deadline : Time}
  {errand : Errand}

omit [Timeline Time] in
theorem raised_note (service : Service Time) (note : ServiceNote) :
    (service.note note).raised = service.raised ++ note.raised?.toList := by
  rw [raised, Service.note, List.filterMap_append]
  cases note <;> rfl

omit [Timeline Time] in
theorem rests_note (service : Service Time) {note : ServiceNote} (calm : note.raised? = none) :
    service.Rests (service.note note) := by
  refine ⟨service.board, service.clients, service.connections, _, rfl, ?_, rfl⟩
  have same := raised_note service note
  rwa [calm, Option.toList_none, List.append_nil] at same

omit [Timeline Time] in
theorem Rests.note (rests : before.Rests after) (note : ServiceNote) :
    (before.note note).Rests (after.note note) := by
  obtain ⟨board, clients, connections, notes, quotes, raised, rfl⟩ := rests
  refine ⟨board, clients, connections, _, quotes, ?_, rfl⟩
  rw [raised_note, ← raised, List.filterMap_append]
  cases note <;> rfl

theorem quotes_moveTo (board : Board Time) (opening : DateTime) (clock : Time) :
    (board.moveTo opening clock).quotes = board.quotes := by
  unfold Board.moveTo
  cases opening.plusMicros (Timeline.micros clock) with
  | ok now => rfl
  | error error => rfl

theorem rests_moveTo (service : Service Time) (time : Time) : service.Rests (service.moveTo time) :=
  rests_board (quotes_moveTo service.board service.opening time)

theorem rests_perform {effect : Ticker.Effect} (plain : effect.Plain) (service : Service Time) :
    service.Rests (service.perform effect) := by
  cases effect with
  | count metric | emit snapshot => exact rests_board rfl
  | _ => exact plain.elim

/-- How a stop ends does not depend on what has been seen before. -/
theorem Rests.stopped (rests : before.Rests after) (cancelled : Bool) :
    (before.perform (.stopped cancelled)).Rests (after.perform (.stopped cancelled)) := by
  obtain ⟨board, clients, connections, notes, quotes, raised, same⟩ := rests.note .stopped
  exact ⟨board, clients, connections, notes, quotes, raised, by simp only [perform, same]⟩

theorem Rests.stop_failed (rests : before.Rests after) (error : TickError) :
    (before.perform (.stopFailed error)).Rests (after.perform (.stopFailed error)) :=
  rests.note (.stopFailed error)

theorem rests_perform_all {effects : List Ticker.Effect} (plain : ∀ effect ∈ effects, effect.Plain)
    (service : Service Time) : service.Rests (effects.foldl perform service) := by
  induction effects generalizing service with
  | nil => exact .refl service
  | cons effect effects induction =>
      rw [List.forall_mem_cons] at plain
      exact (rests_perform plain.1 service).trans (induction plain.2 (service.perform effect))

def taken (service : Service Time) : Except Feed.TakeError (Option Snapshot) :=
  service.board.quotes.take (service.opening.plusMicros (Timeline.micros service.clock))

theorem tell_eq (service : Service Time) (event : Ticker.Event) {ticker : Ticker Time}
    {effects : List Ticker.Effect}
    (turn : service.ticker.step service.clock service.taken event = (ticker, effects)) :
    service.tell event = effects.foldl perform { service with ticker } := by
  rw [taken] at turn
  simp only [tell, turn]

/-! ### The end of a tick -/

def leave (service : Service Time) (loop : Loop Time) : Service Time :=
  { service with ticker := { service.ticker with loop, current := none, stops := [] } }

omit [Timeline Time] in
theorem Rests.leave (rests : before.Rests after) (loop : Loop Time) :
    (before.leave loop).Rests (after.leave loop) := by
  obtain ⟨board, clients, connections, notes, quotes, raised, rfl⟩ := rests
  exact ⟨board, clients, connections, notes, quotes, raised, rfl⟩

/-- Somewhere an interval has no next deadline. -/
def Deadless (interval : Time) (error : TickError) : Prop :=
  ∃ deadline now, Ticker.nextDeadline interval deadline now = .error error

/-- What the end of a tick of the loop leads to, with at most one stop waiting for it. -/
inductive Concluded (before after : Service Time) : Prop
  | goesOn (unstopped : before.ticker.stops = []) (next now : Time)
      (rests : (before.leave (Ticker.sleepUntil next now)).Rests after)
  | fails (unstopped : before.ticker.stops = []) (error : TickError)
      (without : Deadless before.ticker.interval error)
      (rests : (before.leave (.failed error)).Rests after)
  | released (waits : before.ticker.stops ≠ [])
      (rests : ((before.leave .absent).perform (.stopped false)).Rests after)
  | raised (waits : before.ticker.stops ≠ []) (error : TickError)
      (without : Deadless before.ticker.interval error)
      (rests : ((before.leave .absent).perform (.stopFailed error)).Rests after)

theorem Concluded.of_rests {between : Service Time} (rests : before.Rests between)
    (concluded : Concluded between after) : Concluded before after := by
  have same : between.ticker = before.ticker := by
    obtain ⟨_, _, _, _, _, _, rfl⟩ := rests
    rfl
  cases concluded with
  | goesOn unstopped next now last =>
      exact .goesOn (same ▸ unstopped) next now ((rests.leave _).trans last)
  | fails unstopped error without last =>
      exact .fails (same ▸ unstopped) error (same ▸ without) ((rests.leave _).trans last)
  | released waits last =>
      exact .released (same ▸ waits) (((rests.leave _).stopped false).trans last)
  | raised waits error without last =>
      exact .raised (same ▸ waits) error (same ▸ without) (((rests.leave _).stop_failed error).trans last)

theorem concluded_of_resume (patient : service.ticker.stops.length ≤ 1)
    {effects : List Ticker.Effect} (plain : ∀ effect ∈ effects, effect.Plain) {ticker : Ticker Time}
    (same : ticker = { service.ticker with current := none }) (deadline : Time) :
    Concluded service ((effects ++ (ticker.resume service.clock deadline).2).foldl perform
      { service with ticker := (ticker.resume service.clock deadline).1 }) := by
  subst same
  rw [List.foldl_append]
  have stays (loop : Loop Time) : (service.leave loop).Rests
      (effects.foldl perform (service.leave loop)) := rests_perform_all plain _
  cases found : Ticker.nextDeadline service.ticker.interval deadline service.clock with
  | ok next =>
      cases waits : service.ticker.stops with
      | nil =>
          apply Concluded.goesOn waits next service.clock
          simpa [Ticker.resume, found, waits, leave] using
            stays (Ticker.sleepUntil next service.clock)
      | cons stop more =>
          have one : more = [] := by simpa [waits] using patient
          apply Concluded.released (by simp [waits])
          simpa [Ticker.resume, found, waits, one, leave] using (stays .absent).stopped false
  | error error =>
      have without : Deadless service.ticker.interval error := ⟨deadline, service.clock, found⟩
      cases waits : service.ticker.stops with
      | nil =>
          apply Concluded.fails waits error without
          simpa [Ticker.resume, found, waits, leave] using stays (.failed error)
      | cons stop more =>
          have one : more = [] := by simpa [waits] using patient
          apply Concluded.raised (by simp [waits]) error without
          simpa [Ticker.resume, found, waits, one, leave] using (stays .absent).stop_failed error

theorem concluded_of_finish {snapshot : Snapshot} {stage : Stage}
    (inside : service.ticker.loop = .ticking deadline) (patient : service.ticker.stops.length ≤ 1)
    {event : Ticker.Event} {result : Option Snapshot} {effects : List Ticker.Effect}
    (turn : service.ticker.step service.clock service.taken event =
      service.ticker.finish service.clock ⟨.loop, snapshot, stage⟩ result effects)
    (plain : ∀ effect ∈ effects, effect.Plain) : Concluded service (service.tell event) := by
  have ended : service.ticker.finish service.clock ⟨.loop, snapshot, stage⟩ result effects =
      (({ service.ticker with current := none }.resume service.clock deadline).1,
        effects ++ ({ service.ticker with current := none }.resume service.clock deadline).2) := by
    simp only [Ticker.finish, Ticker.conclude, inside]
  rw [tell_eq service event (turn.trans ended)]
  exact concluded_of_resume patient plain rfl deadline

section

variable {snapshot : Snapshot} (inside : service.ticker.loop = .ticking deadline)
  (patient : service.ticker.stops.length ≤ 1)
include inside patient

theorem tell_not_written (running : service.ticker.current = some ⟨.loop, snapshot, .writing⟩) :
    Concluded service (service.tell .notWritten) := by
  have turn : service.ticker.step service.clock service.taken .notWritten =
      service.ticker.finish service.clock ⟨.loop, snapshot, .writing⟩ none
        [.count (.tick .persistFailed), .count .tickLatency] := by
    simp only [Ticker.step, running, if_true]
  exact concluded_of_finish inside patient turn (by simp [Ticker.Effect.Plain])

theorem tell_published (running : service.ticker.current = some ⟨.loop, snapshot, .publishing⟩) :
    Concluded service (service.tell .published) := by
  have turn : service.ticker.step service.clock service.taken .published =
      service.ticker.finish service.clock ⟨.loop, snapshot, .publishing⟩ (some snapshot)
        [.count .tickLatency, .count (.tick .emitted), .emit snapshot] := by
    simp only [Ticker.step, running, if_true]
  exact concluded_of_finish inside patient turn (by simp [Ticker.Effect.Plain])

theorem tell_not_published
    (running : service.ticker.current = some ⟨.loop, snapshot, .publishing⟩) :
    Concluded service (service.tell .notPublished) := by
  have turn : service.ticker.step service.clock service.taken .notPublished =
      service.ticker.finish service.clock ⟨.loop, snapshot, .publishing⟩ (some snapshot)
        [.count .broadcastError, .count .tickLatency, .count (.tick .emitted), .emit snapshot] := by
    simp only [Ticker.step, running, if_true]
  exact concluded_of_finish inside patient turn (by simp [Ticker.Effect.Plain])

end

/-- The errand of a tick goes over into the next one. -/
def Carried (before after : Service Time) (errand : Errand) : Prop :=
  ∃ snapshot time, ({ before with
    ticker := { before.ticker with current := some ⟨.loop, snapshot, errand.stage⟩ }
    owed := some (time, errand) } : Service Time).Rests after

theorem tell_written {snapshot : Snapshot}
    (running : service.ticker.current = some ⟨.loop, snapshot, .writing⟩) :
    service.Carried (service.tell .written) (.publish snapshot) := by
  have turn := tell_eq service .written (by simp only [Ticker.step, running]; rfl)
  rw [turn]
  exact ⟨snapshot, _, .refl _⟩

omit [Timeline Time] in
theorem Carried.of_rests {between : Service Time}
    (rests : ({ before with owed := none } : Service Time).Rests between)
    (carried : between.Carried after errand) : before.Carried after errand := by
  obtain ⟨board, clients, connections, notes, quotes, raised, rfl⟩ := rests
  obtain ⟨snapshot, time, last⟩ := carried
  exact ⟨snapshot, time, .trans ⟨board, clients, connections, notes, quotes, raised, rfl⟩ last⟩

/-- The end of an errand leads to the next one or ends the tick. -/
theorem finish_working (working : service.Working deadline errand)
    (patient : service.ticker.stops.length ≤ 1) :
    (∃ next, next.left < errand.left ∧ service.Carried (service.finish errand) next) ∨
      Concluded { service with owed := none } (service.finish errand) := by
  obtain ⟨inside, ⟨snapshot, running⟩, owed⟩ := working
  cases errand with
  | write written =>
      cases fails : (service.board.conditions .write).failure with
      | some message =>
          apply Or.inr
          simp only [finish, fails]
          exact tell_not_written inside patient running
      | none =>
          have same : service.ticker =
              { service.ticker with current := some ⟨.loop, snapshot, .writing⟩ } := by
            rw [← show service.ticker.current = some ⟨.loop, snapshot, .writing⟩ from running]
          refine .inl ⟨.trim written, Nat.lt_succ_self 2, snapshot, service.dueAfter .trim, ?_⟩
          simp only [finish, fails, Errand.stage, ← same]
          exact rests_board rfl
  | trim written =>
      refine .inl ⟨.publish snapshot, Nat.lt_succ_self 1, ?_⟩
      cases fails : (service.board.conditions .trim).failure with
      | some message =>
          simp only [finish, fails]
          exact Carried.of_rests (.refl _) (tell_written running)
      | none =>
          simp only [finish, fails]
          refine Carried.of_rests ?_ (tell_written running)
          exact rests_board rfl
  | publish written =>
      apply Or.inr
      cases fails : (service.board.conditions .publish).failure with
      | some message =>
          simp only [finish, fails]
          exact tell_not_published inside patient running
      | none =>
          simp only [finish, fails]
          refine Concluded.of_rests ?_ (tell_published inside patient running)
          exact rests_clients _

/-! ### The beginning of a tick -/

def within (service : Service Time) (deadline : Time) : Service Time :=
  { service with ticker := { service.ticker with loop := .ticking deadline } }

inductive Woken (before after : Service Time) (deadline : Time) : Prop
  | fails (error : Feed.TakeError) (found : before.taken = .error error)
      (rests : ({ before with ticker := { before.ticker with loop := .failed (.take error) } } :
        Service Time).Rests after)
  | passed (concluded : Concluded (before.within deadline) after)
  | begun (errand : Errand) (carried : (before.within deadline).Carried after errand)

theorem tell_wake (idle : service.ticker.current = none) (patient : service.ticker.stops.length ≤ 1)
    {wakeAt : Time} (asleep : service.ticker.loop = .waiting deadline wakeAt) :
    Woken service (service.tell .wake) deadline := by
  have stillIdle : (service.within deadline).ticker.current = none := idle
  have turn : service.ticker.step service.clock service.taken .wake =
      (service.within deadline).ticker.begin service.clock .loop service.taken := by
    simp only [Ticker.step, asleep, within]
  cases found : service.taken with
  | error error =>
      have failed : service.ticker.step service.clock service.taken .wake =
          ({ service.ticker with loop := .failed (.take error) }, []) := by
        rw [turn, found]
        simp only [Ticker.begin, stillIdle]
        rw [within, idle]
      rw [tell_eq service .wake failed]
      exact .fails error found (.refl _)
  | ok complete =>
      cases complete with
      | none =>
          have passed : service.ticker.step service.clock service.taken .wake =
              (((service.within deadline).ticker.resume service.clock deadline).1,
                [.count (.tick .incomplete)] ++
                  ((service.within deadline).ticker.resume service.clock deadline).2) := by
            rw [turn, found, Ticker.begin_incomplete stillIdle, Ticker.conclude_loop rfl]
            rfl
          have unchanged : (service.within deadline).ticker =
              { (service.within deadline).ticker with current := none } := by
            rw [← stillIdle]
          have plain : ∀ effect ∈ [Ticker.Effect.count (.tick .incomplete)], effect.Plain := by
            simp [Ticker.Effect.Plain]
          have patiently : (service.within deadline).ticker.stops.length ≤ 1 := patient
          rw [tell_eq service .wake passed]
          exact .passed (concluded_of_resume patiently plain unchanged deadline)
      | some snapshot =>
          have begun : service.ticker.step service.clock service.taken .wake =
              ({ (service.within deadline).ticker with current := some ⟨.loop, snapshot, .writing⟩ },
                [.write snapshot]) := by
            rw [turn, found, Ticker.begin_complete stillIdle]
          rw [tell_eq service .wake begun]
          exact .begun (.write snapshot) ⟨snapshot, service.dueAfter .write, .refl _⟩

/-- The clock alone can keep a snapshot from being taken. -/
theorem loop_error_of_taken {feeds : List String} (distinct : feeds.Nodup)
    (reflects : ∃ reported, service.board.quotes.Reflects feeds reported) (interval : Time)
    {error : Feed.TakeError} (found : service.taken = .error error) :
    LoopError interval service.opening (.take error) := by
  obtain ⟨reported, reflects⟩ := reflects
  obtain ⟨complete, shows⟩ := Feed.exists_shown reflects distinct
  rw [taken, Feed.Quotes.take, shows.answer] at found
  cases complete with
  | none => cases found
  | some values =>
      dsimp only at found
      cases shown : service.opening.plusMicros (Timeline.micros service.clock) with
      | error timeError =>
          rw [shown] at found
          cases found
          exact .clock (by rw [shown]; rfl)
      | ok now =>
          simp only [shown, Except.bind, Snapshot.make] at found
          cases converted : now.toUtc with
          | error timeError =>
              rw [converted] at found
              cases found
              exact .clock (by rw [shown]; exact converted)
          | ok utc =>
              rw [converted] at found
              cases found

/-! ### What is due -/

theorem due_of_sooner {left right : Option (Time × Due Time)} {due : Time × Due Time}
    (found : sooner left right = some due) : left = some due ∨ right = some due := by
  unfold sooner at found
  split at found
  · split at found
    · exact .inr found
    · exact .inl found
  · exact .inl found
  · exact .inr found

inductive DueNow (service : Service Time) (time : Time) : Due Time → Prop
  | errand (errand : Errand) (owed : service.owed = some (time, errand)) :
      DueNow service time (.errand errand)
  | arrival (feed : String) (activity : Activity Time)
      (first : service.incoming.head? = some (time, feed, activity)) :
      DueNow service time (.activity feed activity)
  | patience (waits : service.ticker.stops.head? = some time) :
      DueNow service time (.ticker .graceOver)
  | sleep (deadline : Time) (asleep : service.ticker.loop = .waiting deadline time) :
      DueNow service time (.ticker .wake)

theorem due_now {time : Time} {due : Due Time} (next : service.next? = some (time, due)) :
    service.DueNow time due := by
  rcases due_of_sooner next with ends | others
  · obtain ⟨⟨dueAt, errand⟩, owed, same⟩ := Option.map_eq_some_iff.mp ends
    cases same
    exact .errand errand owed
  rcases due_of_sooner others with arrives | others
  · obtain ⟨⟨dueAt, feed, activity⟩, first, same⟩ := Option.map_eq_some_iff.mp arrives
    cases same
    exact .arrival feed activity first
  rcases due_of_sooner others with expires | wake
  · obtain ⟨stop, waits, same⟩ := Option.map_eq_some_iff.mp expires
    cases same
    exact .patience waits
  · cases asleep : service.ticker.loop with
    | waiting deadline wakeAt =>
        rw [asleep] at wake
        cases wake
        exact .sleep deadline asleep
    | absent | ticking _ | failed _ =>
        rw [asleep] at wake
        cases wake

theorem sooner_some (left : Time × Due Time) (right : Option (Time × Due Time)) :
    ∃ due, sooner (some left) right = some due := by
  cases right with
  | none => exact ⟨left, rfl⟩
  | some right =>
      by_cases earlier : right.1 < left.1
      · exact ⟨right, if_pos earlier⟩
      · exact ⟨left, if_neg earlier⟩

/-- Where the store is on an errand, something is due. -/
theorem next_of_working (working : service.Working deadline errand) :
    ∃ due, service.next? = some due := by
  obtain ⟨time, owed⟩ := working.owed
  rw [next?, owed]
  exact sooner_some _ _

end

/-! ### Services that are tended -/

section

variable {Time : Type}

def Informed (feeds : List String) (board : Board Time) : Prop :=
  ∃ reported, board.quotes.Reflects feeds reported

/-- A service of some settings, nothing of which has been stopped. -/
structure Tended (settings : ServiceSettings Time) (opening : DateTime) (most : ℕ)
    (service : Service Time) : Prop where
  interval : service.ticker.interval = settings.interval
  opening : service.opening = opening
  informed : Informed (settings.feeds.map (·.1)) service.board
  few : service.incoming.length ≤ most
  unreleased : service.released = false
  unraised : service.raised = []

variable {settings : ServiceSettings Time} {opening : DateTime} {most : ℕ}
  {service before after : Service Time} {feeds : List String}

/-- Turns of the ticker leave a service tended. -/
theorem Tended.turn (tended : service.Tended settings opening most) {ticker : Ticker Time}
    (same : ticker.interval = service.ticker.interval) (owed : Option (Time × Errand)) :
    ({ service with ticker, owed } : Service Time).Tended settings opening most := by
  obtain ⟨interval, isOpening, informed, few, unreleased, unraised⟩ := tended
  exact ⟨same.trans interval, isOpening, informed, few, unreleased, unraised⟩

theorem Tended.rests (tended : before.Tended settings opening most) (rests : before.Rests after) :
    after.Tended settings opening most := by
  obtain ⟨board, clients, connections, notes, quotes, raised, rfl⟩ := rests
  obtain ⟨interval, isOpening, informed, few, unreleased, unraised⟩ := tended
  refine ⟨interval, isOpening, ?_, few, unreleased, raised.trans unraised⟩
  rw [Informed, quotes]
  exact informed

theorem informed_update {board : Board Time} (informed : Informed feeds board) (feed : String)
    (value : Float) (time : Option DateTime) : Informed feeds (board.update feed value time).1 := by
  obtain ⟨reported, reflects⟩ := informed
  refine ⟨reported ++ [(feed, value)], ?_⟩
  rw [(Board.rests_update board feed value time).quotes]
  exact Feed.reflects_update reflects feed value _

theorem informed_hear {board : Board Time} (informed : Informed feeds board) (feed : String)
    (activity : Activity Time) : Informed feeds (board.hear feed activity).1 := by
  cases activity with
  | received payload =>
      rw [Board.hear, Board.message]
      cases Feed.readTrade payload with
      | error error => exact informed
      | ok found =>
          cases found with
          | none => exact informed
          | some trade => exact informed_update informed feed trade.price trade.time
  | _ => exact informed

theorem hear_rests (service : Service Time) (feed : String) (activity : Activity Time) :
    ({ service with board := (service.board.hear feed activity).1 } : Service Time).Rests
      (service.hear feed activity) := by
  unfold hear
  generalize service.board.hear feed activity = heard
  obtain ⟨board, _ | _ | _⟩ := heard
  · exact .refl _
  · exact ⟨board, service.clients, _, service.notes, rfl, rfl, rfl⟩
  · exact .refl _

theorem Tended.board (tended : service.Tended settings opening most) {board : Board Time}
    (informed : Informed (settings.feeds.map (·.1)) board) :
    ({ service with board } : Service Time).Tended settings opening most := by
  obtain ⟨interval, isOpening, _, few, unreleased, unraised⟩ := tended
  exact ⟨interval, isOpening, informed, few, unreleased, unraised⟩

theorem Tended.arrival (tended : service.Tended settings opening most) :
    ({ service with incoming := service.incoming.tail } : Service Time).Tended settings opening
      most := by
  obtain ⟨interval, isOpening, informed, few, unreleased, unraised⟩ := tended
  refine ⟨interval, isOpening, informed, ?_, unreleased, unraised⟩
  exact le_trans (List.length_tail.trans_le (Nat.sub_le _ _)) few

end

section

variable {Time : Type} [Timeline Time] {settings : ServiceSettings Time} {opening : DateTime}
  {most : ℕ} {service before after : Service Time}

/-- A started service that no stop waits for. -/
structure Runs (settings : ServiceSettings Time) (opening : DateTime) (most : ℕ)
    (service : Service Time) : Prop where
  tended : service.Tended settings opening most
  unstopped : service.ticker.stops = []
  phase : service.Resting ∨ ∃ deadline errand, service.Working deadline errand
  causes : ∀ error, service.ticker.loop = .failed error → LoopError settings.interval opening error

theorem Runs.rests (runs : before.Runs settings opening most) (rests : before.Rests after) :
    after.Runs settings opening most := by
  have tended := runs.tended.rests rests
  have phase : after.Resting ∨ ∃ deadline errand, after.Working deadline errand :=
    runs.phase.imp (·.rests rests) fun ⟨deadline, errand, working⟩ =>
      ⟨deadline, errand, working.rests rests⟩
  obtain ⟨_, _, _, _, _, _, rfl⟩ := rests
  exact ⟨tended, runs.unstopped, phase, runs.causes⟩

theorem runs_leave (tended : service.Tended settings opening most) (nothing : service.owed = none)
    {loop : Loop Time} (outside : loop.inTick = false)
    (causes : ∀ error, loop = .failed error → LoopError settings.interval opening error) :
    (service.leave loop).Runs settings opening most :=
  ⟨tended.turn (by rfl) service.owed, rfl, .inl ⟨outside, rfl, nothing⟩, causes⟩

theorem Deadless.loop_error {interval : Time} {error : TickError} (without : Deadless interval error)
    (opening : DateTime) : LoopError interval opening error := by
  obtain ⟨deadline, now, found⟩ := without
  exact .deadline found

theorem runs_concluded (tended : before.Tended settings opening most) (nothing : before.owed = none)
    (unstopped : before.ticker.stops = []) (concluded : Concluded before after) :
    after.Runs settings opening most := by
  cases concluded with
  | goesOn _ next now rests =>
      apply Runs.rests _ rests
      apply runs_leave tended nothing rfl
      intro error failed
      rw [Ticker.sleepUntil] at failed
      exact nomatch failed
  | fails _ error without rests =>
      apply Runs.rests _ rests
      apply runs_leave tended nothing rfl
      intro other failed
      cases failed
      rw [← tended.interval]
      exact without.loop_error opening
  | released waits rests => exact absurd unstopped waits
  | raised waits error without rests => exact absurd unstopped waits

theorem runs_carried {deadline : Time} {errand : Errand} (tended : before.Tended settings opening most)
    (unstopped : before.ticker.stops = []) (inside : before.ticker.loop = .ticking deadline)
    (carried : before.Carried after errand) : after.Runs settings opening most := by
  obtain ⟨snapshot, time, rests⟩ := carried
  refine Runs.rests ?_ rests
  refine ⟨tended.turn (by rfl) _, unstopped,
    .inr ⟨deadline, errand, inside, ⟨snapshot, rfl⟩, time, rfl⟩, ?_⟩
  intro error failed
  exact nomatch inside.symm.trans failed

/-- A service whose loop is in no tick has no errand, and one whose loop is in a tick does not sleep. -/
theorem Runs.working_of_owed (runs : service.Runs settings opening most) {time : Time} {errand : Errand}
    (owed : service.owed = some (time, errand)) : ∃ deadline, service.Working deadline errand := by
  rcases runs.phase with resting | ⟨deadline, other, working⟩
  · cases resting.nothing.symm.trans owed
  · obtain ⟨due, also⟩ := working.owed
    cases also.symm.trans owed
    exact ⟨deadline, working⟩

theorem Runs.resting_of_asleep (runs : service.Runs settings opening most) {deadline wakeAt : Time}
    (asleep : service.ticker.loop = .waiting deadline wakeAt) : service.Resting := by
  rcases runs.phase with resting | ⟨_, _, working⟩
  · exact resting
  · cases asleep.symm.trans working.inside

theorem Runs.patient (runs : service.Runs settings opening most) :
    service.ticker.stops.length ≤ 1 := by
  rw [runs.unstopped]
  exact Nat.zero_le 1

theorem runs_errand (runs : service.Runs settings opening most) {time : Time} {errand : Errand}
    (owed : service.owed = some (time, errand)) :
    (service.finish errand).Runs settings opening most := by
  obtain ⟨deadline, working⟩ := runs.working_of_owed owed
  rcases finish_working working runs.patient with ⟨next, _, carried⟩ | concluded
  · exact runs_carried runs.tended runs.unstopped working.inside carried
  · have tended : ({ service with owed := none } : Service Time).Tended settings opening most :=
      runs.tended.turn (by rfl) none
    exact runs_concluded tended rfl runs.unstopped concluded

theorem Runs.board (runs : service.Runs settings opening most) {board : Board Time}
    (informed : Informed (settings.feeds.map (·.1)) board) :
    ({ service with board } : Service Time).Runs settings opening most := by
  refine ⟨runs.tended.board informed, runs.unstopped, ?_, runs.causes⟩
  rcases runs.phase with ⟨outside, idle, nothing⟩ | ⟨deadline, errand, inside, running, owed⟩
  · exact .inl ⟨outside, idle, nothing⟩
  · exact .inr ⟨deadline, errand, inside, running, owed⟩

theorem Runs.arrival (runs : service.Runs settings opening most) :
    ({ service with incoming := service.incoming.tail } : Service Time).Runs settings opening
      most := by
  refine ⟨runs.tended.arrival, runs.unstopped, ?_, runs.causes⟩
  rcases runs.phase with ⟨outside, idle, nothing⟩ | ⟨deadline, errand, inside, running, owed⟩
  · exact .inl ⟨outside, idle, nothing⟩
  · exact .inr ⟨deadline, errand, inside, running, owed⟩

theorem runs_hear (runs : service.Runs settings opening most) (feed : String)
    (activity : Activity Time) : (service.hear feed activity).Runs settings opening most :=
  (runs.board (informed_hear runs.tended.informed feed activity)).rests
    (hear_rests service feed activity)

theorem runs_wake (distinct : (settings.feeds.map (·.1)).Nodup)
    (runs : service.Runs settings opening most) {deadline wakeAt : Time}
    (asleep : service.ticker.loop = .waiting deadline wakeAt) :
    (service.tell .wake).Runs settings opening most := by
  have resting := runs.resting_of_asleep asleep
  have tended : (service.within deadline).Tended settings opening most :=
    runs.tended.turn (by rfl) service.owed
  cases tell_wake resting.idle runs.patient asleep with
  | fails error found rests =>
      refine Runs.rests ?_ rests
      refine ⟨runs.tended.turn (by rfl) service.owed, runs.unstopped,
        .inl ⟨rfl, resting.idle, resting.nothing⟩, ?_⟩
      intro other failed
      cases failed
      rw [← runs.tended.opening]
      exact loop_error_of_taken distinct runs.tended.informed settings.interval found
  | passed concluded => exact runs_concluded tended resting.nothing runs.unstopped concluded
  | begun errand carried => exact runs_carried tended runs.unstopped rfl carried

theorem runs_jump (distinct : (settings.feeds.map (·.1)).Nodup)
    (runs : service.Runs settings opening most) {time : Time} {due : Due Time}
    (next : service.next? = some (time, due)) :
    (service.jump time due).Runs settings opening most := by
  have moved := runs.rests (rests_moveTo service time)
  cases due_now next with
  | errand errand owed => exact runs_errand moved owed
  | arrival feed activity first => exact runs_hear moved.arrival feed activity
  | patience waits =>
      rw [runs.unstopped] at waits
      exact nomatch waits
  | sleep deadline asleep => exact runs_wake distinct moved asleep

/-! ### Services that go on -/

section

variable (distinct : (settings.feeds.map (·.1)).Nodup)
include distinct

theorem runs_until (limit : Time) (budget : ℕ) (runs : service.Runs settings opening most) :
    (runUntil limit budget service).Runs settings opening most := by
  induction budget generalizing service with
  | zero => exact runs
  | succ budget induction =>
      rw [runUntil]
      cases next : service.next? with
      | none => exact runs
      | some due =>
          obtain ⟨time, due⟩ := due
          dsimp only
          split
          · exact induction (runs_jump distinct runs next)
          · exact runs

theorem runs_pass (budget : ℕ) (runs : service.Runs settings opening most) (time : Time) :
    (service.passUntil budget time).Runs settings opening most := by
  have passed := runs_until distinct time budget runs
  rw [passUntil]
  split
  · exact passed.rests (rests_moveTo _ time)
  · exact passed

theorem runs_issue (budget : ℕ) (deadline : Option Time) (command : Command)
    (runs : service.Runs settings opening most) :
    (service.issue budget deadline command).1.Runs settings opening most := by
  unfold issue
  dsimp only
  split
  · exact runs_pass distinct budget runs _
  · dsimp only
    split
    · exact runs_pass distinct budget runs _
    · exact runs

theorem runs_act (budget : ℕ) (runs : service.Runs settings opening most)
    (action : ServiceAction Time) : (service.act budget action).Runs settings opening most := by
  cases action with
  | request request =>
      have served : (Web.serve (site service.web budget) service request).1.Runs settings opening most := by
        apply Web.serve_keeps _ _ runs
        · exact fun deadline command world runs => runs_issue distinct budget deadline command runs
        · exact fun metrics world runs => runs.rests (rests_board rfl)
      exact served.rests (rests_note _ rfl)
  | update feed value =>
      have informed := informed_update runs.tended.informed feed value none
      exact (runs.board informed).rests (rests_note _ rfl)
  | join name fragile => exact runs.rests (rests_clients _)
  | leave name => exact runs.rests (rests_clients _)
  | say => exact runs
  | fail command message => exact runs.rests (rests_board rfl)
  | delay command seconds => exact runs.rests (rests_board rfl)

theorem runs_follow (budget : ℕ) (runs : service.Runs settings opening most)
    (actions : List (Time × ServiceAction Time)) :
    (service.follow budget actions).Runs settings opening most := by
  induction actions generalizing service with
  | nil => exact runs
  | cons step actions induction =>
      obtain ⟨time, action⟩ := step
      exact induction (runs_act distinct budget (runs_pass distinct budget runs time) action)

end

end

end Service

end PriceBoard
