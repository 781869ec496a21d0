import PriceBoard.Proofs.Ticker.Rehearsal

/-!
# Courses

A loop is started and stopped again and again, each call made when the one before it has returned.
There is never more than one loop, and it wakes only on the grid of its own start.
-/
namespace PriceBoard.Rehearsal

/-- Starts and stops wait for the stop before them to return, and nobody else asks for ticks. -/
def Calls {Time : Type} (rehearsal : Rehearsal Time) : Action → Prop
  | .update _ _ => True
  | .start | .stop => rehearsal.ticker.stops = []
  | .tick => False

inductive Phase (origin : ℚ) (rehearsal : Rehearsal ℚ) : Prop
  | silent (silent : rehearsal.Silent)
  | failed (error : TickError) (failed : rehearsal.ticker.loop = .failed error)
      (settled : rehearsal.Settled)
  | waiting (deadline : ℚ) (asleep : rehearsal.ticker.loop = .waiting deadline deadline)
      (settled : rehearsal.Settled) (early : rehearsal.clock ≤ deadline)
      (grid : OnGrid rehearsal.ticker.interval origin deadline)
  | ticking (snapshot : Snapshot) (stage : Stage) (due deadline : ℚ)
      (inFlight : rehearsal.InFlight snapshot stage due)
      (inside : rehearsal.ticker.loop = .ticking deadline) (begun : deadline ≤ rehearsal.clock)
      (grid : OnGrid rehearsal.ticker.interval origin deadline)
      (patience : rehearsal.ticker.stops = [] ∨
        ∃ limit, rehearsal.ticker.stops = [limit] ∧ rehearsal.clock ≤ limit)

structure Orderly (interval grace origin : ℚ) (rehearsal : Rehearsal ℚ) : Prop where
  interval : rehearsal.ticker.interval = interval
  grace : rehearsal.ticker.grace = grace
  phase : rehearsal.Phase origin

/-- When the loop was started, if it was at an origin before an action at a time. -/
def startedBy (rehearsal : Rehearsal ℚ) (time origin : ℚ) : Action → ℚ
  | .start =>
    match rehearsal.ticker.loop with
    | .absent => time
    | _ => origin
  | _ => origin

/-- The rehearsals that starts, stops and updates lead to, each at a time that can be reached, with
the time at which the loop was started last. Each start and stop is made when the stop before it has
returned, and nobody else asks for ticks. -/
inductive Course (interval grace : ℚ) : ℚ → Rehearsal ℚ → Prop
  | opening (plans : ℕ → InsertPlan ℚ) (publishing : ℕ → ℚ) (handsOn : Bool) (opening : DateTime)
      (feeds : List String) (origin : ℚ) :
      Course interval grace origin
        { Rehearsal.start plans handsOn opening (Ticker.make interval grace) feeds with publishing }
  | due {origin : ℚ} {rehearsal : Rehearsal ℚ} {time : ℚ} {event : Ticker.Event}
      (next : rehearsal.next? = some (time, event)) :
      Course interval grace origin rehearsal →
        Course interval grace origin (rehearsal.jump time event)
  | act {origin : ℚ} {rehearsal : Rehearsal ℚ} {time : ℚ} {action : Action}
      (free : rehearsal.Free time) (calls : rehearsal.Calls action) :
      Course interval grace origin rehearsal →
        Course interval grace (rehearsal.startedBy time origin action)
          ((rehearsal.reach time).act action)

section Course

variable {interval grace origin : ℚ} {rehearsal : Rehearsal ℚ}

theorem Phase.update (phase : rehearsal.Phase origin) (quotes : Feed.Quotes)
    (metrics : List Metric) : Phase origin { rehearsal with quotes, metrics } := by
  cases phase with
  | silent silent => exact .silent ⟨silent.loop, silent.current, silent.owed, silent.stops⟩
  | failed error failed settled =>
    exact .failed error failed ⟨settled.current, settled.owed, settled.stops⟩
  | waiting deadline asleep settled early grid =>
    exact .waiting deadline asleep ⟨settled.current, settled.owed, settled.stops⟩ early grid
  | ticking snapshot stage due deadline inFlight inside begun grid patience =>
    exact .ticking snapshot stage due deadline
      ⟨inFlight.inTick, inFlight.current, inFlight.owed, inFlight.clock⟩ inside begun grid patience

theorem Phase.settled (phase : rehearsal.Phase origin)
    (outside : rehearsal.ticker.loop.inTick = false) : rehearsal.Settled := by
  cases phase with
  | silent silent => exact ⟨silent.current, silent.owed, silent.stops⟩
  | failed _ _ settled | waiting _ _ settled => exact settled
  | ticking _ _ _ _ _ inside =>
    rw [inside] at outside
    cases outside

theorem Phase.in_flight (phase : rehearsal.Phase origin)
    (inTick : rehearsal.ticker.loop.inTick = true) :
    ∃ snapshot stage due deadline, rehearsal.InFlight snapshot stage due ∧
      rehearsal.ticker.loop = .ticking deadline ∧ deadline ≤ rehearsal.clock ∧
      OnGrid rehearsal.ticker.interval origin deadline := by
  cases phase with
  | ticking snapshot stage due deadline inFlight inside begun grid _ =>
    exact ⟨snapshot, stage, due, deadline, inFlight, inside, begun, grid⟩
  | silent silent => simp [silent.loop, Loop.inTick] at inTick
  | failed error failed => simp [failed, Loop.inTick] at inTick
  | waiting deadline asleep => simp [asleep, Loop.inTick] at inTick

/-- A stop that finds no tick in flight returns at once. -/
theorem Phase.stop_outside (phase : rehearsal.Phase origin)
    (outside : rehearsal.ticker.loop.inTick = false) :
    ∃ answer, (answer = .stopped false ∨ ∃ error, answer = .stopFailed error) ∧
      rehearsal.act .stop =
        { rehearsal with
          ticker := { rehearsal.ticker with loop := .absent }
          notes := rehearsal.notes ++ [(rehearsal.clock, answer)] } := by
  cases phase with
  | silent silent =>
    refine ⟨_, .inl rfl, ?_⟩
    rw [stop_absent silent.loop, ← silent.loop]
  | failed error failed _ => exact ⟨_, .inr ⟨error, rfl⟩, stop_failed failed⟩
  | waiting _ asleep _ _ _ => exact ⟨_, .inl rfl, stop_waiting asleep⟩
  | ticking _ _ _ _ _ inside =>
    rw [inside] at outside
    cases outside

theorem Phase.silent_of_stop (phase : rehearsal.Phase origin)
    (outside : rehearsal.ticker.loop.inTick = false) : (rehearsal.act .stop).Silent := by
  obtain ⟨_, _, stopped⟩ := phase.stop_outside outside
  have settled := phase.settled outside
  rw [stopped]
  exact ⟨rfl, settled.current, settled.owed, settled.stops⟩

/-- The end of a stage leads to the next stage or ends the tick. -/
theorem stage_orderly (positive : 0 < rehearsal.ticker.interval) {snapshot : Snapshot}
    {stage : Stage} {due deadline : ℚ} (inFlight : rehearsal.InFlight snapshot stage due)
    (inside : rehearsal.ticker.loop = .ticking deadline) (begun : deadline ≤ rehearsal.clock)
    (grid : OnGrid rehearsal.ticker.interval origin deadline)
    (patience : rehearsal.ticker.stops = [] ∨
      ∃ limit, rehearsal.ticker.stops = [limit] ∧ due ≤ limit) :
    Orderly rehearsal.ticker.interval rehearsal.ticker.grace origin
      (rehearsal.jump due (rehearsal.outcome stage)) := by
  have reached : deadline ≤ due := begun.trans inFlight.clock
  by_cases succeeds : rehearsal.outcome stage = .written
  · obtain rfl := stage_of_written succeeds
    rw [jump_written inFlight succeeds]
    exact ⟨rfl, rfl, .ticking snapshot .publishing _ deadline
      ⟨inFlight.inTick, rfl, rfl, wait_late ..⟩ inside reached grid patience⟩
  · rcases patience with stops | ⟨limit, stops, _⟩
    · obtain ⟨metrics, next, isNext, jumped⟩ :=
        jump_end_free positive inFlight succeeds stops inside reached grid
      rw [jumped]
      exact ⟨rfl, rfl, .waiting next rfl ⟨rfl, rfl, stops⟩ isNext.later.le isNext.onGrid⟩
    · obtain ⟨metrics, jumped⟩ := jump_end_stopped positive inFlight succeeds stops
      rw [jumped]
      exact ⟨rfl, rfl, .silent ⟨rfl, rfl, rfl, rfl⟩⟩

theorem wake_orderly (positive : 0 < rehearsal.ticker.interval) {deadline : ℚ}
    (settled : rehearsal.Settled) (asleep : rehearsal.ticker.loop = .waiting deadline deadline)
    (grid : OnGrid rehearsal.ticker.interval origin deadline) :
    Orderly rehearsal.ticker.interval rehearsal.ticker.grace origin
      (rehearsal.jump deadline .wake) := by
  cases found : rehearsal.quotes.take (rehearsal.reach deadline).wallClock with
  | error error =>
    rw [jump_wake_failing settled asleep found]
    exact ⟨rfl, rfl, .failed _ rfl ⟨settled.current, settled.owed, settled.stops⟩⟩
  | ok complete =>
    cases complete with
    | none =>
      obtain ⟨next, isNext, jumped⟩ := jump_wake_incomplete positive settled asleep grid found
      rw [jumped]
      exact ⟨rfl, rfl, .waiting next rfl ⟨settled.current, settled.owed, settled.stops⟩
        isNext.later.le isNext.onGrid⟩
    | some snapshot =>
      obtain ⟨inFlight, jumped⟩ := jump_wake_complete settled asleep found
      refine ⟨by rw [jumped], by rw [jumped], .ticking _ _ _ deadline inFlight ?_ ?_ ?_ (.inl ?_)⟩
      all_goals rw [jumped]
      · exact grid
      · exact settled.stops

theorem due_orderly (positive : 0 < interval) (orderly : Orderly interval grace origin rehearsal)
    {time : ℚ} {event : Ticker.Event} (next : rehearsal.next? = some (time, event)) :
    Orderly interval grace origin (rehearsal.jump time event) := by
  obtain ⟨rfl, rfl, phase⟩ := orderly
  cases phase with
  | silent silent =>
    rw [next_of_silent silent] at next
    cases next
  | failed error failed settled =>
    rw [next_of_failed settled failed] at next
    cases next
  | waiting deadline asleep settled early grid =>
    rw [next_of_waiting settled asleep] at next
    cases next
    exact wake_orderly positive settled asleep grid
  | ticking snapshot stage due deadline inFlight inside begun grid patience =>
    rcases patience with stops | ⟨limit, stops, early⟩
    · rw [inFlight.next stops] at next
      cases next
      exact stage_orderly positive inFlight inside begun grid (.inl stops)
    · rw [inFlight.next_before stops] at next
      -- A stage that ends just when the patience does still ends.
      by_cases past : limit < due
      · rw [if_pos past] at next
        cases next
        obtain ⟨metrics, jumped⟩ := jump_grace_over inFlight stops past.le
        rw [jumped]
        exact ⟨rfl, rfl, .silent ⟨rfl, rfl, rfl, rfl⟩⟩
      · rw [if_neg past] at next
        cases next
        exact stage_orderly positive inFlight inside begun grid
          (.inr ⟨limit, stops, not_lt.mp past⟩)

theorem reach_orderly (orderly : Orderly interval grace origin rehearsal) {time : ℚ}
    (free : rehearsal.Free time) : Orderly interval grace origin (rehearsal.reach time) := by
  obtain ⟨isInterval, isGrace, phase⟩ := orderly
  obtain ⟨later, early⟩ := free
  refine ⟨isInterval, isGrace, ?_⟩
  cases phase with
  | silent silent => exact .silent (silent.reach time)
  | failed error failed settled => exact .failed error failed (settled.reach time)
  | waiting deadline asleep settled _ grid =>
    rw [next_of_waiting settled asleep] at early
    exact .waiting deadline asleep (settled.reach time) (early _ rfl) grid
  | ticking snapshot stage due deadline inFlight inside begun grid patience =>
    rcases patience with stops | ⟨limit, stops, _⟩
    · rw [inFlight.next stops] at early
      exact .ticking snapshot stage due deadline (inFlight.reach (early _ rfl)) inside
        (begun.trans later) grid (.inl stops)
    · obtain ⟨beforeDue, beforeLimit⟩ := inFlight.free_before stops early
      exact .ticking snapshot stage due deadline (inFlight.reach beforeDue) inside
        (begun.trans later) grid (.inr ⟨limit, stops, beforeLimit⟩)

theorem start_orderly (positive : 0 < rehearsal.ticker.interval) (phase : rehearsal.Phase origin) :
    Orderly rehearsal.ticker.interval rehearsal.ticker.grace
      (rehearsal.startedBy rehearsal.clock origin .start) (rehearsal.act .start) := by
  cases state : rehearsal.ticker.loop with
  | absent =>
    rw [start_absent state positive, startedBy, state]
    have settled := phase.settled (by rw [state]; rfl)
    exact ⟨rfl, rfl, .waiting _ rfl ⟨settled.current, settled.owed, settled.stops⟩
      (lt_add_of_pos_right _ positive).le (on_grid_first ..)⟩
  | waiting _ _ | ticking _ | failed _ =>
    rw [start_present (by rw [state]; nofun), startedBy, state]
    exact ⟨rfl, rfl, phase⟩

theorem stop_orderly (nonneg : 0 ≤ rehearsal.ticker.grace) (phase : rehearsal.Phase origin)
    (returned : rehearsal.ticker.stops = []) :
    Orderly rehearsal.ticker.interval rehearsal.ticker.grace origin (rehearsal.act .stop) := by
  cases state : rehearsal.ticker.loop.inTick with
  | false =>
    have silent := phase.silent_of_stop state
    obtain ⟨_, _, stopped⟩ := phase.stop_outside state
    rw [stopped] at silent ⊢
    exact ⟨rfl, rfl, .silent silent⟩
  | true =>
    obtain ⟨snapshot, stage, due, deadline, inFlight, inside, begun, grid⟩ :=
      phase.in_flight state
    rcases nonneg.eq_or_lt with none | some
    · obtain ⟨metrics, stopped⟩ := stop_impatient inFlight returned none.symm
      rw [stopped]
      exact ⟨rfl, rfl, .silent ⟨rfl, rfl, rfl, rfl⟩⟩
    · rw [stop_patient inFlight returned some]
      exact ⟨rfl, rfl, .ticking snapshot stage due deadline
        ⟨inFlight.inTick, inFlight.current, inFlight.owed, inFlight.clock⟩ inside begun grid
        (.inr ⟨_, rfl, (lt_add_of_pos_right _ some).le⟩)⟩

theorem act_orderly (positive : 0 < interval) (nonneg : 0 ≤ grace)
    (orderly : Orderly interval grace origin rehearsal) {action : Action}
    (calls : rehearsal.Calls action) :
    Orderly interval grace (rehearsal.startedBy rehearsal.clock origin action)
      (rehearsal.act action) := by
  obtain ⟨rfl, rfl, phase⟩ := orderly
  cases action with
  | tick => exact absurd calls id
  | update feed value =>
    obtain ⟨quotes, metrics, updated⟩ := rehearsal.update_eq feed value
    rw [updated]
    exact ⟨rfl, rfl, phase.update quotes metrics⟩
  | start => exact start_orderly positive phase
  | stop => exact stop_orderly nonneg phase calls

theorem course_orderly (positive : 0 < interval) (nonneg : 0 ≤ grace)
    (course : Course interval grace origin rehearsal) :
    Orderly interval grace origin rehearsal := by
  induction course with
  | opening => exact ⟨rfl, rfl, .silent ⟨rfl, rfl, rfl, rfl⟩⟩
  | due next _ induction => exact due_orderly positive induction next
  | act free calls _ induction =>
    exact act_orderly positive nonneg (reach_orderly induction free) calls

end Course

end PriceBoard.Rehearsal
