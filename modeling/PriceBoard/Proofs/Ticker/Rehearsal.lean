import PriceBoard.Proofs.Ticker.Cadence
import PriceBoard.Ticker.Rehearsal

/-!
# One thing at a time

What the next event or the next action does to a rehearsal in which only the loop asks for ticks,
while a tick of the loop is in flight and while none is.
-/
namespace PriceBoard.Rehearsal

variable {Time : Type} [Timeline Time]

def outcome (rehearsal : Rehearsal Time) : Stage → Ticker.Event
  | .writing => if rehearsal.plan.fails then .notWritten else .written
  | .publishing => if rehearsal.plan.publishFails then .notPublished else .published

def published (rehearsal : Rehearsal Time) (time : Time) : Time :=
  Timeline.wait time (rehearsal.publishing (rehearsal.inserts - 1))

def handedOn (rehearsal : Rehearsal Time) (snapshot : Snapshot) (time : Time) :
    List (Time × Note) :=
  if rehearsal.handsOn then [(time, .emit snapshot.timestamp)] else []

/-- What will be seen of the tick in flight if it is let run. -/
def ahead (rehearsal : Rehearsal Time) : List (Time × Note) :=
  match rehearsal.ticker.current, rehearsal.owed with
  | some tick, some (due, .written) =>
    (due, .publish newData) :: rehearsal.handedOn tick.snapshot (rehearsal.published due)
  | _, some (due, .notWritten) => [(due, .insertFailed)]
  | some tick, some (due, _) => rehearsal.handedOn tick.snapshot due
  | none, _ => []
  | _, none => []

/-- When the tick in flight will end if it is let run. -/
def tickEnd (rehearsal : Rehearsal Time) : Time :=
  match rehearsal.owed with
  | some (due, .written) => rehearsal.published due
  | some (due, _) => due
  | none => rehearsal.clock

def reach (rehearsal : Rehearsal Time) (time : Time) : Rehearsal Time :=
  { rehearsal with clock := time }

/-- A time can be reached if nothing is due before it. -/
def Free (rehearsal : Rehearsal Time) (time : Time) : Prop :=
  rehearsal.clock ≤ time ∧ ∀ due ∈ rehearsal.next?, time ≤ due.1

structure Silent (rehearsal : Rehearsal Time) : Prop where
  loop : rehearsal.ticker.loop = .absent
  current : rehearsal.ticker.current = none
  owed : rehearsal.owed = none
  stops : rehearsal.ticker.stops = []

/-- The loop's tick is in flight: the store will end its stage when that is due. -/
structure InFlight (rehearsal : Rehearsal Time) (snapshot : Snapshot) (stage : Stage)
    (due : Time) : Prop where
  inTick : ∃ deadline, rehearsal.ticker.loop = .ticking deadline
  current : rehearsal.ticker.current = some ⟨.loop, snapshot, stage⟩
  owed : rehearsal.owed = some (due, rehearsal.outcome stage)
  clock : rehearsal.clock ≤ due

theorem wait_late (clock delay : ℚ) : clock ≤ Timeline.wait clock delay := by
  change clock ≤ if 0 < delay then clock + delay else clock
  by_cases some : 0 < delay
  · rw [if_pos some]
    linarith
  · rw [if_neg some]

section InFlight

variable {rehearsal : Rehearsal ℚ} {snapshot : Snapshot} {stage : Stage} {due limit : ℚ}

theorem next_of_silent (silent : rehearsal.Silent) : rehearsal.next? = none := by
  simp [next?, silent.loop, silent.owed, silent.stops]

theorem Silent.reach (silent : rehearsal.Silent) (time : ℚ) : (rehearsal.reach time).Silent :=
  ⟨silent.loop, silent.current, silent.owed, silent.stops⟩

theorem Silent.free (silent : rehearsal.Silent) {time : ℚ} (later : rehearsal.clock ≤ time) :
    rehearsal.Free time := by
  refine ⟨later, ?_⟩
  rw [next_of_silent silent]
  exact fun _ member => absurd member (Option.not_mem_none _)

theorem InFlight.next (inFlight : rehearsal.InFlight snapshot stage due)
    (stops : rehearsal.ticker.stops = []) :
    rehearsal.next? = some (due, rehearsal.outcome stage) := by
  obtain ⟨deadline, inside⟩ := inFlight.inTick
  simp [next?, inside, inFlight.owed, stops]

theorem InFlight.next_before (inFlight : rehearsal.InFlight snapshot stage due)
    (stops : rehearsal.ticker.stops = [limit]) :
    rehearsal.next? =
      if limit < due then some (limit, .graceOver) else some (due, rehearsal.outcome stage) := by
  obtain ⟨deadline, inside⟩ := inFlight.inTick
  simp [next?, inside, inFlight.owed, stops]

theorem InFlight.reach (inFlight : rehearsal.InFlight snapshot stage due) {time : ℚ}
    (early : time ≤ due) : (rehearsal.reach time).InFlight snapshot stage due :=
  ⟨inFlight.inTick, inFlight.current, inFlight.owed, early⟩

theorem InFlight.free_before (inFlight : rehearsal.InFlight snapshot stage due)
    (stops : rehearsal.ticker.stops = [limit]) {time : ℚ}
    (early : ∀ next ∈ rehearsal.next?, time ≤ next.1) : time ≤ due ∧ time ≤ limit := by
  rw [inFlight.next_before stops] at early
  by_cases past : limit < due
  · rw [if_pos past] at early
    have beforeLimit := early _ rfl
    exact ⟨beforeLimit.trans past.le, beforeLimit⟩
  · rw [if_neg past] at early
    have beforeDue := early _ rfl
    exact ⟨beforeDue, beforeDue.trans (not_lt.mp past)⟩

theorem jump_written (inFlight : rehearsal.InFlight snapshot .writing due)
    (succeeds : rehearsal.outcome .writing = .written) :
    rehearsal.jump due (rehearsal.outcome .writing) =
      { rehearsal with
        clock := due
        ticker := { rehearsal.ticker with current := some ⟨.loop, snapshot, .publishing⟩ }
        owed := some (rehearsal.published due, rehearsal.outcome .publishing)
        notes := rehearsal.notes ++ [(due, .publish newData)] } := by
  rw [succeeds]
  simp only [jump, tell, Ticker.step, inFlight.current]
  rfl

theorem outcome_cases (rehearsal : Rehearsal ℚ) (stage : Stage) :
    (stage = .writing ∧
        (rehearsal.outcome stage = .written ∨ rehearsal.outcome stage = .notWritten)) ∨
      (stage = .publishing ∧
        (rehearsal.outcome stage = .published ∨ rehearsal.outcome stage = .notPublished)) := by
  cases stage with
  | writing => cases fails : rehearsal.plan.fails <;> simp [outcome, fails]
  | publishing => cases fails : rehearsal.plan.publishFails <;> simp [outcome, fails]

theorem stage_of_written (succeeds : rehearsal.outcome stage = .written) : stage = .writing := by
  rcases rehearsal.outcome_cases stage with ⟨isStage, _⟩ | ⟨_, ends | ends⟩
  · exact isStage
  · cases ends.symm.trans succeeds
  · cases ends.symm.trans succeeds

/-- The last stage of a tick ends: what was ahead has been seen, and the loop resumes. -/
theorem jump_end (inFlight : rehearsal.InFlight snapshot stage due)
    (last : rehearsal.outcome stage ≠ .written) {deadline : ℚ}
    (inside : rehearsal.ticker.loop = .ticking deadline) :
    ∃ metrics,
      let resumed := ({ rehearsal.ticker with current := none } : Ticker ℚ).resume due deadline
      rehearsal.jump due (rehearsal.outcome stage) =
        resumed.2.foldl perform
          { rehearsal with
            clock := due
            ticker := resumed.1
            owed := none
            notes := rehearsal.notes ++ rehearsal.ahead
            metrics } := by
  rcases rehearsal.outcome_cases stage with ⟨rfl, ends | ends⟩ | ⟨rfl, ends | ends⟩
  · exact absurd ends last
  · refine ⟨rehearsal.metrics ++ [.tick .persistFailed] ++ [.tickLatency], ?_⟩
    have ahead : rehearsal.ahead = [(due, .insertFailed)] := by
      simp [Rehearsal.ahead, inFlight.current, inFlight.owed, ends]
    rw [ends, ahead]
    simp [jump, tell, Ticker.step, inFlight.current, Ticker.finish, Ticker.conclude, inside,
      perform, note, count]
  · refine ⟨rehearsal.metrics ++ [.tickLatency] ++ [.tick .emitted], ?_⟩
    have ahead : rehearsal.ahead = rehearsal.handedOn snapshot due := by
      simp [Rehearsal.ahead, inFlight.current, inFlight.owed, ends]
    rw [ends, ahead]
    cases hands : rehearsal.handsOn <;>
      simp [jump, tell, Ticker.step, inFlight.current, Ticker.finish, Ticker.conclude, inside,
        perform, note, count, handedOn, hands]
  · refine ⟨rehearsal.metrics ++ [.broadcastError] ++ [.tickLatency] ++ [.tick .emitted], ?_⟩
    have ahead : rehearsal.ahead = rehearsal.handedOn snapshot due := by
      simp [Rehearsal.ahead, inFlight.current, inFlight.owed, ends]
    rw [ends, ahead]
    cases hands : rehearsal.handsOn <;>
      simp [jump, tell, Ticker.step, inFlight.current, Ticker.finish, Ticker.conclude, inside,
        perform, note, count, handedOn, hands]

/-- A loop that a stop waits for ends with its tick. -/
theorem resume_stopped {ticker : Ticker ℚ} (positive : 0 < ticker.interval)
    (stops : ticker.stops = [limit]) (now deadline : ℚ) :
    ticker.resume now deadline = ({ ticker with loop := .absent, stops := [] }, [.stopped false]) := by
  obtain ⟨next, found⟩ := Ticker.next_deadline_found positive deadline now
  simp [Ticker.resume, found, stops]

/-- A loop that no stop waits for goes to sleep after its tick. -/
theorem resume_free {ticker : Ticker ℚ} (positive : 0 < ticker.interval)
    (stops : ticker.stops = []) {origin now deadline : ℚ} (reached : deadline ≤ now)
    (grid : OnGrid ticker.interval origin deadline) :
    ∃ next, IsNext ticker.interval origin now next ∧
      ticker.resume now deadline = ({ ticker with loop := .waiting next next }, []) := by
  obtain ⟨next, found, isNext⟩ := Ticker.next_on_grid positive reached grid
  refine ⟨next, isNext, ?_⟩
  simp [Ticker.resume, found, stops, Timetable.sleep_until_rat isNext.later]

theorem jump_end_stopped (positive : 0 < rehearsal.ticker.interval)
    (inFlight : rehearsal.InFlight snapshot stage due)
    (last : rehearsal.outcome stage ≠ .written) (stops : rehearsal.ticker.stops = [limit]) :
    ∃ metrics, rehearsal.jump due (rehearsal.outcome stage) =
      { rehearsal with
        clock := due
        ticker := { rehearsal.ticker with loop := .absent, current := none, stops := [] }
        owed := none
        notes := rehearsal.notes ++ rehearsal.ahead ++ [(due, .stopped false)]
        metrics } := by
  obtain ⟨deadline, inside⟩ := inFlight.inTick
  obtain ⟨metrics, ended⟩ := jump_end inFlight last inside
  rw [resume_stopped (by exact positive) (by exact stops)] at ended
  exact ⟨metrics, ended⟩

theorem jump_end_free (positive : 0 < rehearsal.ticker.interval)
    (inFlight : rehearsal.InFlight snapshot stage due)
    (last : rehearsal.outcome stage ≠ .written) (stops : rehearsal.ticker.stops = [])
    {origin deadline : ℚ} (inside : rehearsal.ticker.loop = .ticking deadline)
    (reached : deadline ≤ due) (grid : OnGrid rehearsal.ticker.interval origin deadline) :
    ∃ metrics next, IsNext rehearsal.ticker.interval origin due next ∧
      rehearsal.jump due (rehearsal.outcome stage) =
        { rehearsal with
          clock := due
          ticker := { rehearsal.ticker with loop := .waiting next next, current := none }
          owed := none
          notes := rehearsal.notes ++ rehearsal.ahead
          metrics } := by
  obtain ⟨metrics, ended⟩ := jump_end inFlight last inside
  obtain ⟨next, isNext, resumed⟩ := @resume_free { rehearsal.ticker with current := none }
    positive stops origin due deadline reached grid
  rw [resumed] at ended
  exact ⟨metrics, next, isNext, ended⟩

/-- What is noted of a stage that is given up: only a write shows. -/
def givenUp (stage : Stage) (time : ℚ) : List (ℚ × Note) :=
  match stage with
  | .writing => [(time, .insertCancelled)]
  | .publishing => []

theorem cancel_performed (inFlight : rehearsal.InFlight snapshot stage due) (stop : ℚ) :
    ∃ metrics,
      (rehearsal.ticker.cancel [stop]).2.foldl perform
          { rehearsal with ticker := (rehearsal.ticker.cancel [stop]).1 } =
        { rehearsal with
          ticker := { rehearsal.ticker with loop := .absent, current := none, stops := [] }
          owed := none
          notes := rehearsal.notes ++ givenUp stage rehearsal.clock ++
            [(rehearsal.clock, .stopped true)]
          metrics } := by
  refine ⟨rehearsal.metrics ++ [.tickLatency], ?_⟩
  have owed := inFlight.owed
  rcases rehearsal.outcome_cases stage with ⟨rfl, ends | ends⟩ | ⟨rfl, ends | ends⟩ <;>
  · rw [ends] at owed
    simp [Ticker.cancel, perform, owed, note, count, givenUp]

theorem jump_grace_over (inFlight : rehearsal.InFlight snapshot stage due)
    (stops : rehearsal.ticker.stops = [limit]) (early : limit ≤ due) :
    ∃ metrics, rehearsal.jump limit .graceOver =
      { rehearsal with
        clock := limit
        ticker := { rehearsal.ticker with loop := .absent, current := none, stops := [] }
        owed := none
        notes := rehearsal.notes ++ givenUp stage limit ++ [(limit, .stopped true)]
        metrics } := by
  obtain ⟨deadline, inside⟩ := inFlight.inTick
  obtain ⟨metrics, performed⟩ := cancel_performed (inFlight.reach early) limit
  refine ⟨metrics, Eq.trans ?_ performed⟩
  simp only [jump, tell, Ticker.step, inside, stops]
  rfl

/-- A stop without patience gives the tick up at once. -/
theorem stop_impatient (inFlight : rehearsal.InFlight snapshot stage due)
    (stops : rehearsal.ticker.stops = []) (impatient : rehearsal.ticker.grace = 0) :
    ∃ metrics, rehearsal.act .stop =
      { rehearsal with
        ticker := { rehearsal.ticker with loop := .absent, current := none, stops := [] }
        owed := none
        notes := rehearsal.notes ++ givenUp stage rehearsal.clock ++
          [(rehearsal.clock, .stopped true)]
        metrics } := by
  obtain ⟨deadline, inside⟩ := inFlight.inTick
  obtain ⟨metrics, performed⟩ := cancel_performed inFlight rehearsal.clock
  refine ⟨metrics, ?_⟩
  rw [← performed]
  have given : rehearsal.ticker.step rehearsal.clock
      (rehearsal.quotes.take rehearsal.wallClock) .stop =
        rehearsal.ticker.cancel [rehearsal.clock] := by
    have noGrace : ¬(0 < rehearsal.ticker.grace) := by
      rw [impatient]
      exact lt_irrefl (0 : ℚ)
    simp only [Ticker.step, inside, stops]
    exact if_neg noGrace
  simp only [act, tell, given]

/-- Otherwise the stop waits for as long as its grace period. -/
theorem stop_patient (inFlight : rehearsal.InFlight snapshot stage due)
    (stops : rehearsal.ticker.stops = []) (patient : 0 < rehearsal.ticker.grace) :
    rehearsal.act .stop =
      { rehearsal with
        ticker :=
          { rehearsal.ticker with stops := [rehearsal.clock + rehearsal.ticker.grace] } } := by
  obtain ⟨deadline, inside⟩ := inFlight.inTick
  have waits : rehearsal.ticker.step rehearsal.clock
      (rehearsal.quotes.take rehearsal.wallClock) .stop =
        ({ rehearsal.ticker with stops := [rehearsal.clock + rehearsal.ticker.grace] }, []) := by
    simp only [Ticker.step, inside, stops]
    exact if_pos patient
  simp only [act, tell, waits]
  rfl

end InFlight

/-! ### The loop between its ticks -/

structure Settled (rehearsal : Rehearsal Time) : Prop where
  current : rehearsal.ticker.current = none
  owed : rehearsal.owed = none
  stops : rehearsal.ticker.stops = []

section Loop

variable {rehearsal : Rehearsal ℚ} {deadline wakeAt : ℚ}

theorem Settled.reach (settled : rehearsal.Settled) (time : ℚ) :
    (rehearsal.reach time).Settled :=
  ⟨settled.current, settled.owed, settled.stops⟩

theorem next_of_waiting (settled : rehearsal.Settled)
    (asleep : rehearsal.ticker.loop = .waiting deadline wakeAt) :
    rehearsal.next? = some (wakeAt, .wake) := by
  simp [next?, asleep, settled.owed, settled.stops]

theorem next_of_failed (settled : rehearsal.Settled) {error : TickError}
    (failed : rehearsal.ticker.loop = .failed error) : rehearsal.next? = none := by
  simp [next?, failed, settled.owed, settled.stops]

theorem jump_wake_failing (settled : rehearsal.Settled)
    (asleep : rehearsal.ticker.loop = .waiting deadline wakeAt) {error : Feed.TakeError}
    (found : rehearsal.quotes.take (rehearsal.reach wakeAt).wallClock = .error error) :
    rehearsal.jump wakeAt .wake =
      { rehearsal with
        clock := wakeAt
        ticker := { rehearsal.ticker with loop := .failed (.take error) } } := by
  have fails : rehearsal.ticker.step wakeAt
      (rehearsal.quotes.take (rehearsal.reach wakeAt).wallClock) .wake =
        ({ rehearsal.ticker with loop := .failed (.take error) }, []) := by
    simp [Ticker.step, asleep, Ticker.begin, settled.current, found]
  exact congrArg (fun turn : Ticker ℚ × List Ticker.Effect =>
    turn.2.foldl perform { rehearsal with clock := wakeAt, ticker := turn.1 }) fails

theorem jump_wake_incomplete (positive : 0 < rehearsal.ticker.interval)
    (settled : rehearsal.Settled) (asleep : rehearsal.ticker.loop = .waiting deadline deadline)
    {origin : ℚ} (grid : OnGrid rehearsal.ticker.interval origin deadline)
    (found : rehearsal.quotes.take (rehearsal.reach deadline).wallClock = .ok none) :
    ∃ next, IsNext rehearsal.ticker.interval origin deadline next ∧
      rehearsal.jump deadline .wake =
        { rehearsal with
          clock := deadline
          ticker := { rehearsal.ticker with loop := .waiting next next }
          metrics := rehearsal.metrics ++ [.tick .incomplete] } := by
  obtain ⟨next, isNext, resumed⟩ := @resume_free { rehearsal.ticker with loop := .ticking deadline }
    positive settled.stops origin deadline deadline le_rfl grid
  refine ⟨next, isNext, ?_⟩
  have passes : rehearsal.ticker.step deadline
      (rehearsal.quotes.take (rehearsal.reach deadline).wallClock) .wake =
        ({ rehearsal.ticker with loop := .waiting next next }, [.count (.tick .incomplete)]) := by
    simp [Ticker.step, asleep, Ticker.begin, settled.current, found, Ticker.conclude] at resumed ⊢
    simp [resumed]
  exact congrArg (fun turn : Ticker ℚ × List Ticker.Effect =>
    turn.2.foldl perform { rehearsal with clock := deadline, ticker := turn.1 }) passes

theorem jump_wake_complete (settled : rehearsal.Settled)
    (asleep : rehearsal.ticker.loop = .waiting deadline wakeAt) {snapshot : Snapshot}
    (found : rehearsal.quotes.take (rehearsal.reach wakeAt).wallClock = .ok (some snapshot)) :
    let plan := rehearsal.plans rehearsal.inserts
    let due := Timeline.wait wakeAt plan.takes
    (rehearsal.jump wakeAt .wake).InFlight snapshot .writing due ∧
      rehearsal.jump wakeAt .wake =
        { rehearsal with
          clock := wakeAt
          ticker :=
            { rehearsal.ticker with
              loop := .ticking deadline
              current := some ⟨.loop, snapshot, .writing⟩ }
          inserts := rehearsal.inserts + 1
          owed := some (due, if plan.fails then .notWritten else .written)
          notes := rehearsal.notes ++ [(wakeAt, .insert snapshot)] } := by
  intro plan due
  have begins : rehearsal.ticker.step wakeAt
      (rehearsal.quotes.take (rehearsal.reach wakeAt).wallClock) .wake =
        ({ rehearsal.ticker with
            loop := .ticking deadline
            current := some ⟨.loop, snapshot, .writing⟩ }, [.write snapshot]) := by
    simp [Ticker.step, asleep, Ticker.begin, settled.current, found]
  have jumped := congrArg (fun turn : Ticker ℚ × List Ticker.Effect =>
    turn.2.foldl perform { rehearsal with clock := wakeAt, ticker := turn.1 }) begins
  change rehearsal.jump wakeAt .wake = _ at jumped
  rw [jumped]
  exact ⟨⟨⟨deadline, rfl⟩, rfl, rfl, wait_late ..⟩, rfl⟩

theorem start_absent (absent : rehearsal.ticker.loop = .absent)
    (positive : 0 < rehearsal.ticker.interval) :
    rehearsal.act .start =
      { rehearsal with
        ticker :=
          { rehearsal.ticker with
            loop := .waiting (rehearsal.clock + rehearsal.ticker.interval)
              (rehearsal.clock + rehearsal.ticker.interval) } } := by
  have sleeps : rehearsal.ticker.step rehearsal.clock
      (rehearsal.quotes.take rehearsal.wallClock) .start =
        ({ rehearsal.ticker with
            loop := .waiting (rehearsal.clock + rehearsal.ticker.interval)
              (rehearsal.clock + rehearsal.ticker.interval) }, []) := by
    have asleep := Timetable.sleep_until_rat
      (lt_add_of_pos_right rehearsal.clock positive)
    simp only [Ticker.step, absent]
    rw [← asleep]
  simp only [act, tell, sleeps]
  rfl

/-- There is never a second loop: a start while one is present changes nothing. -/
theorem start_present (present : rehearsal.ticker.loop ≠ .absent) :
    rehearsal.act .start = rehearsal := by
  have stays : rehearsal.ticker.step rehearsal.clock
      (rehearsal.quotes.take rehearsal.wallClock) .start = (rehearsal.ticker, []) := by
    cases state : rehearsal.ticker.loop with
    | absent => exact absurd state present
    | waiting _ _ | ticking _ | failed _ => simp only [Ticker.step, state]
  simp only [act, tell, stays]
  rfl

theorem stop_absent (absent : rehearsal.ticker.loop = .absent) :
    rehearsal.act .stop =
      { rehearsal with notes := rehearsal.notes ++ [(rehearsal.clock, .stopped false)] } := by
  have ends : rehearsal.ticker.step rehearsal.clock
      (rehearsal.quotes.take rehearsal.wallClock) .stop =
        (rehearsal.ticker, [.stopped false]) := by
    simp only [Ticker.step, absent]
  simp only [act, tell, ends]
  rfl

theorem stop_waiting (asleep : rehearsal.ticker.loop = .waiting deadline wakeAt) :
    rehearsal.act .stop =
      { rehearsal with
        ticker := { rehearsal.ticker with loop := .absent }
        notes := rehearsal.notes ++ [(rehearsal.clock, .stopped false)] } := by
  have ends : rehearsal.ticker.step rehearsal.clock
      (rehearsal.quotes.take rehearsal.wallClock) .stop =
        ({ rehearsal.ticker with loop := .absent }, [.stopped false]) := by
    simp only [Ticker.step, asleep]
  simp only [act, tell, ends]
  rfl

theorem stop_failed {error : TickError} (failed : rehearsal.ticker.loop = .failed error) :
    rehearsal.act .stop =
      { rehearsal with
        ticker := { rehearsal.ticker with loop := .absent }
        notes := rehearsal.notes ++ [(rehearsal.clock, .stopFailed error)] } := by
  have ends : rehearsal.ticker.step rehearsal.clock
      (rehearsal.quotes.take rehearsal.wallClock) .stop =
        ({ rehearsal.ticker with loop := .absent }, [.stopFailed error]) := by
    simp only [Ticker.step, failed]
  simp only [act, tell, ends]
  rfl

/-- An update is no concern of the ticker. -/
theorem update_eq (rehearsal : Rehearsal ℚ) (feed : String) (value : Float) :
    ∃ quotes metrics, rehearsal.act (.update feed value) = { rehearsal with quotes, metrics } := by
  simp only [act]
  split
  · exact ⟨rehearsal.quotes, rehearsal.metrics, rfl⟩
  · split
    · exact ⟨_, _, rfl⟩
    · exact ⟨rehearsal.quotes, rehearsal.metrics, rfl⟩

end Loop

end PriceBoard.Rehearsal
