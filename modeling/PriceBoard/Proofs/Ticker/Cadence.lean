import Mathlib.Data.List.Chain
import Mathlib.Data.Rat.Floor
import Mathlib.Tactic.Linarith
import PriceBoard.Proofs.Ticker.Turns

/-!
# The cadence of the loop

A loop that is started and not stopped ticks on a grid: at whole numbers of intervals after its start,
the first of them one interval after it. When a tick ends, the next one is at the first point of the
grid that is still to come; points that passed during the tick are left out, and so is the point at
which it ends.
-/
namespace PriceBoard

/-! ### The next deadline -/

/-- A whole number of intervals after an origin, at least one. -/
def OnGrid (interval origin moment : ℚ) : Prop :=
  ∃ steps : ℕ, 0 < steps ∧ moment = origin + steps * interval

/-- The first point of a grid after a moment. -/
structure IsNext (interval origin moment next : ℚ) : Prop where
  onGrid : OnGrid interval origin next
  later : moment < next
  least : ∀ steps : ℤ, moment < origin + steps * interval → next ≤ origin + steps * interval

namespace Ticker

theorem next_deadline_rat (interval deadline now : ℚ) :
    nextDeadline interval deadline now =
      if deadline + interval ≤ now then
        if 0 < interval ∨ interval < 0 then
          .ok (deadline + interval +
            ((⌊(now - (deadline + interval)) / interval⌋ + 1 : ℤ) : ℚ) * interval)
        else .error .zeroInterval
      else .ok (deadline + interval) := rfl

theorem next_deadline_found {interval : ℚ} (positive : 0 < interval) (deadline now : ℚ) :
    ∃ next, nextDeadline interval deadline now = .ok next := by
  rw [next_deadline_rat]
  by_cases late : deadline + interval ≤ now
  · exact ⟨_, by rw [if_pos late, if_pos (.inl positive)]⟩
  · exact ⟨_, if_neg late⟩

theorem next_deadline_steps {interval deadline now : ℚ} (positive : 0 < interval)
    (reached : deadline ≤ now) :
    ∃ steps : ℕ, 0 < steps ∧
      nextDeadline interval deadline now = .ok (deadline + steps * interval) ∧
      now < deadline + steps * interval ∧ deadline + steps * interval ≤ now + interval := by
  rw [next_deadline_rat]
  by_cases late : deadline + interval ≤ now
  · rw [if_pos late, if_pos (.inl positive)]
    -- The two bounds of a floor say that the deadline found is the first one after `now`.
    generalize passed : ⌊(now - (deadline + interval)) / interval⌋ = missed
    have nonneg : 0 ≤ missed := by
      rw [← passed, Int.floor_nonneg]
      exact div_nonneg (by linarith) positive.le
    have atLeast : missed * interval ≤ now - (deadline + interval) := by
      rw [← le_div_iff₀ positive, ← passed]
      exact Int.floor_le _
    have below : now - (deadline + interval) < (missed + 1) * interval := by
      rw [← div_lt_iff₀ positive, ← passed]
      exact Int.lt_floor_add_one _
    obtain ⟨whole, rfl⟩ := Int.eq_ofNat_of_zero_le nonneg
    push_cast at atLeast below ⊢
    refine ⟨whole + 2, by omega, ?_, ?_, ?_⟩
    · congr 1
      push_cast
      ring
    · push_cast
      linarith
    · push_cast
      linarith
  · rw [if_neg late]
    refine ⟨1, Nat.one_pos, by rw [Nat.cast_one, one_mul], ?_, ?_⟩ <;> push_cast <;> linarith

theorem is_next_of_within {interval origin moment : ℚ} (positive : 0 < interval) {steps : ℕ}
    (some : 0 < steps) (later : moment < origin + steps * interval)
    (near : origin + steps * interval ≤ moment + interval) :
    IsNext interval origin moment (origin + steps * interval) where
  onGrid := ⟨steps, some, rfl⟩
  later := later
  least other beyond := by
    by_contra short
    have fewer : (other : ℚ) < steps :=
      lt_of_mul_lt_mul_right (by linarith : (other : ℚ) * interval < steps * interval) positive.le
    have whole : (other : ℚ) + 1 ≤ steps := by exact_mod_cast fewer
    have scaled := mul_le_mul_of_nonneg_right whole positive.le
    linarith

theorem next_on_grid {interval origin deadline now : ℚ} (positive : 0 < interval)
    (reached : deadline ≤ now) (grid : OnGrid interval origin deadline) :
    ∃ next, nextDeadline interval deadline now = .ok next ∧ IsNext interval origin now next := by
  obtain ⟨before, some, rfl⟩ := grid
  obtain ⟨steps, _, found, later, near⟩ := next_deadline_steps positive reached
  have total : origin + before * interval + steps * interval =
      origin + ((before + steps : ℕ) : ℚ) * interval := by
    push_cast
    ring
  refine ⟨origin + before * interval + steps * interval, found, ?_⟩
  rw [total] at later near ⊢
  exact is_next_of_within positive (by omega) later near

/-! ### What an event does to the loop -/

section Loop

variable {Time : Type} {ticker : Ticker Time}

def loopStarts (ticker : Ticker Time) (event : Event) : Bool := ticker.asks event = some .loop

def loopEnds (ticker : Ticker Time) (event : Event) (after : Ticker Time) : Bool :=
  (ticker.loop.inTick || ticker.loopStarts event) && !after.loop.inTick

theorem wake_of_loop_starts {event : Event} (starts : ticker.loopStarts event = true) :
    event = .wake := by
  have asked : ticker.asks event = some .loop := of_decide_eq_true starts
  cases event with
  | wake => rfl
  | start | stop | tick | written | notWritten | published | notPublished | graceOver => cases asked

variable [Timeline Time]

def resumed (interval now deadline : Time) : Loop Time :=
  match nextDeadline interval deadline now with
  | .ok next => sleepUntil next now
  | .error error => .failed error

/-- What one event does to a loop that is present and that no stop waits for: whether a tick of it
starts, and whether one ends. -/
inductive LoopTurn (interval now : Time) : Loop Time → Bool → Bool → Loop Time → Prop
  | rest (loop : Loop Time) : LoopTurn interval now loop false false loop
  | enter (deadline wakeAt : Time) :
      LoopTurn interval now (.waiting deadline wakeAt) true false (.ticking deadline)
  | pass (deadline wakeAt : Time) :
      LoopTurn interval now (.waiting deadline wakeAt) true true (resumed interval now deadline)
  | fail (deadline wakeAt : Time) (error : Feed.TakeError) :
      LoopTurn interval now (.waiting deadline wakeAt) true true (.failed (.take error))
  | leave (deadline : Time) :
      LoopTurn interval now (.ticking deadline) false true (resumed interval now deadline)

/-- A turn of a ticker that no stop waits for, as far as its loop is concerned. -/
structure Unstopped (ticker : Ticker Time) (now : Time) (event : Event) (after : Ticker Time) :
    Prop where
  stops : after.stops = []
  interval : after.interval = ticker.interval
  loop : LoopTurn ticker.interval now ticker.loop (ticker.loopStarts event)
    (ticker.loopEnds event after) after.loop

theorem Unstopped.of_loop {now : Time} {event : Event} {after : Ticker Time} {starts ends : Bool}
    {before loop : Loop Time} (stops : after.stops = []) (interval : after.interval = ticker.interval)
    (isBefore : ticker.loop = before) (isAfter : after.loop = loop)
    (isStarts : ticker.loopStarts event = starts) (isEnds : ticker.loopEnds event after = ends)
    (turn : LoopTurn ticker.interval now before starts ends loop) :
    ticker.Unstopped now event after := by
  subst isBefore isAfter isStarts isEnds
  exact ⟨stops, interval, turn⟩

theorem resume_loop (unstopped : ticker.stops = []) (now deadline : Time) :
    (ticker.resume now deadline).1.loop = resumed ticker.interval now deadline := by
  unfold resume resumed
  rw [unstopped]
  cases nextDeadline ticker.interval deadline now <;> rfl

theorem resume_stops (ticker : Ticker Time) (now deadline : Time) :
    (ticker.resume now deadline).1.stops = [] := by
  unfold resume
  cases nextDeadline ticker.interval deadline now <;> cases stops : ticker.stops <;> simp

theorem resume_interval (ticker : Ticker Time) (now deadline : Time) :
    (ticker.resume now deadline).1.interval = ticker.interval := by
  unfold resume
  split <;> rfl

/-- An event that the loop has no part in. -/
theorem unstopped_rest (unstopped : ticker.stops = []) (now : Time) {event : Event}
    (unasked : ticker.asks event ≠ some .loop) {after : Ticker Time}
    (stops : after.stops = ticker.stops) (interval : after.interval = ticker.interval)
    (loop : after.loop = ticker.loop) : ticker.Unstopped now event after := by
  have starts : ticker.loopStarts event = false := decide_eq_false unasked
  exact .of_loop (stops.trans unstopped) interval rfl loop starts
    (by simp [loopEnds, starts, loop]) (.rest _)

theorem finish_unstopped (coherent : ticker.Coherent) (unstopped : ticker.stops = [])
    {event : Event} (unasked : ticker.asks event = none) {tick : Tick}
    (running : ticker.current = some tick) (now : Time) (result : Option Snapshot)
    (effects : List Effect) :
    ticker.Unstopped now event (ticker.finish now tick result effects).1 := by
  rw [Coherent, running] at coherent
  obtain ⟨caller, snapshot, stage⟩ := tick
  cases caller with
  | direct => exact unstopped_rest unstopped now (by simp [unasked]) rfl rfl rfl
  | loop =>
    replace coherent : ticker.loop.inTick = true := by simpa using coherent
    obtain ⟨deadline, inside⟩ := loop_of_in_tick coherent
    have after : (ticker.finish now ⟨.loop, snapshot, stage⟩ result effects).1 =
        (({ ticker with current := none } : Ticker Time).resume now deadline).1 := by
      simp only [finish, conclude, inside]
    rw [after]
    exact .of_loop (resume_stops _ now deadline) (resume_interval _ now deadline)
      inside (resume_loop (by exact unstopped) now deadline) (by simp [loopStarts, unasked])
      (by simp [loopEnds, coherent, resume_not_in_tick]) (.leave deadline)

theorem wake_unstopped (unstopped : ticker.stops = []) {deadline wakeAt : Time}
    (asleep : ticker.loop = .waiting deadline wakeAt) (entering : Ticker Time)
    (inside : entering.loop = .ticking deadline) (sameStops : entering.stops = ticker.stops)
    (sameInterval : entering.interval = ticker.interval) (now : Time)
    (found : Except Feed.TakeError (Option Snapshot)) :
    ticker.Unstopped now .wake (entering.begin now .loop found).1 := by
  have starts : ticker.loopStarts .wake = true := by simp [loopStarts, asks, asleep]
  have stops : entering.stops = [] := sameStops.trans unstopped
  have passes : ticker.Unstopped now .wake (entering.conclude now .loop none).1 := by
    rw [conclude_loop inside]
    exact .of_loop (resume_stops entering now deadline)
      ((resume_interval entering now deadline).trans sameInterval) asleep
      ((resume_loop stops now deadline).trans (by rw [sameInterval])) starts
      (by simp [loopEnds, starts, resume_not_in_tick]) (.pass deadline wakeAt)
  cases running : entering.current with
  | some tick =>
    rw [begin_busy running]
    exact passes
  | none =>
    cases found with
    | error error =>
      simp only [begin, running]
      exact .of_loop stops sameInterval asleep rfl starts
        (by simp [loopEnds, starts, Loop.inTick]) (.fail deadline wakeAt error)
    | ok complete =>
      cases complete with
      | none =>
        rw [begin_incomplete running]
        exact passes
      | some snapshot =>
        rw [begin_complete running]
        exact .of_loop stops sameInterval asleep inside starts
          (by simp [loopEnds, inside, Loop.inTick]) (.enter deadline wakeAt)

theorem tick_unstopped (unstopped : ticker.stops = []) (now : Time)
    (found : Except Feed.TakeError (Option Snapshot)) :
    ticker.Unstopped now .tick (ticker.begin now .direct found).1 := by
  have unasked : ticker.asks .tick ≠ some .loop := by simp [asks]
  cases running : ticker.current with
  | some tick =>
    rw [begin_busy running]
    exact unstopped_rest unstopped now unasked rfl rfl rfl
  | none =>
    cases found with
    | error error =>
      simp only [begin, running]
      exact unstopped_rest unstopped now unasked rfl rfl rfl
    | ok complete =>
      cases complete with
      | none =>
        rw [begin_incomplete running]
        exact unstopped_rest unstopped now unasked rfl rfl rfl
      | some snapshot =>
        rw [begin_complete running]
        exact unstopped_rest unstopped now unasked rfl rfl rfl

theorem step_unstopped (coherent : ticker.Coherent) (unstopped : ticker.stops = [])
    (present : ticker.loop ≠ .absent) {event : Event} (notStop : event ≠ .stop) (now : Time)
    (found : Except Feed.TakeError (Option Snapshot)) :
    ticker.Unstopped now event (ticker.step now found event).1 := by
  cases event with
  | stop => exact absurd rfl notStop
  | start =>
    cases state : ticker.loop with
    | absent => exact absurd state present
    | waiting _ _ | ticking _ | failed _ =>
      simp only [step, state]
      exact unstopped_rest unstopped now (by simp [asks]) rfl rfl rfl
  | wake =>
    cases state : ticker.loop with
    | waiting deadline wakeAt =>
      simp only [step, state]
      exact wake_unstopped unstopped state { ticker with loop := .ticking deadline } rfl rfl rfl
        now found
    | absent | ticking _ | failed _ =>
      simp only [step, state]
      exact unstopped_rest unstopped now (by simp [asks, state]) rfl rfl rfl
  | tick => exact tick_unstopped unstopped now found
  | written =>
    simp only [step]
    split
    · exact unstopped_rest unstopped now (by simp [asks]) rfl rfl rfl
    · exact unstopped_rest unstopped now (by simp [asks]) rfl rfl rfl
  | notWritten | published | notPublished =>
    cases running : ticker.current with
    | none =>
      simp only [step, running]
      exact unstopped_rest unstopped now (by simp [asks]) rfl rfl rfl
    | some tick =>
      simp only [step, running]
      split
      · exact finish_unstopped coherent unstopped rfl running now _ _
      · exact unstopped_rest unstopped now (by simp [asks]) rfl rfl rfl
  | graceOver =>
    have patient : ticker.step now found .graceOver = (ticker, []) := by
      simp only [step, unstopped]
      split
      · contradiction
      · rfl
    rw [patient]
    exact unstopped_rest unstopped now (by simp [asks]) rfl rfl rfl

/-- A loop that sleeps wakes when its sleep is over, not earlier and not later. -/
def Punctual (ticker : Ticker Time) (now : Time) (event : Event) : Prop :=
  ∀ deadline wakeAt, ticker.loop = .waiting deadline wakeAt →
    now ≤ wakeAt ∧ (event = .wake → now = wakeAt)

end Loop

end Ticker

/-! ### Timetables -/

/-- A ticker and the time it has come to, with the start and the end of each tick of its loop, and
the start of the one it is in. -/
structure Timetable (Time : Type) where
  ticker : Ticker Time
  clock : Time
  laps : List (Time × Time)
  running : Option Time

namespace Timetable

variable {Time : Type} [Timeline Time]

def hear (table : Timetable Time) (now : Time) (event : Ticker.Event)
    (found : Except Feed.TakeError (Option Snapshot)) : Timetable Time :=
  let after := (table.ticker.step now found event).1
  let begun := if table.ticker.loopStarts event then some now else table.running
  let ended := table.ticker.loopEnds event after
  { ticker := after
    clock := now
    laps := if ended then table.laps ++ begun.toList.map (fun start => (start, now)) else table.laps
    running := if ended then none else begun }

/-- The timetables of a loop that is started at a time and not stopped. Meanwhile anything else may
happen, at any time. -/
inductive Undisturbed (interval origin : Time) : Timetable Time → Prop
  | start {ticker : Ticker Time} (isInterval : ticker.interval = interval)
      (coherent : ticker.Coherent) (absent : ticker.loop = .absent) (unstopped : ticker.stops = [])
      (found : Except Feed.TakeError (Option Snapshot)) :
      Undisturbed interval origin ⟨(ticker.step origin found .start).1, origin, [], none⟩
  | hear {table : Timetable Time} {now : Time} {event : Ticker.Event}
      (found : Except Feed.TakeError (Option Snapshot)) (later : table.clock ≤ now)
      (notStop : event ≠ .stop) (punctual : table.ticker.Punctual now event) :
      Undisturbed interval origin table → Undisturbed interval origin (table.hear now event found)

end Timetable

structure Due (interval origin : ℚ) (laps : List (ℚ × ℚ)) (moment : ℚ) : Prop where
  first : laps = [] → moment = origin + interval
  next : ∀ lap ∈ laps.getLast?, IsNext interval origin lap.2 moment

def startsOf (laps : List (ℚ × ℚ)) (running : Option ℚ) : List ℚ :=
  laps.map Prod.fst ++ running.toList

structure Regular (interval origin : ℚ) (laps : List (ℚ × ℚ)) (running : Option ℚ) : Prop where
  first : ∀ start ∈ (startsOf laps running).head?, start = origin + interval
  grid : ∀ start ∈ startsOf laps running, OnGrid interval origin start
  increasing : (startsOf laps running).IsChain (· < ·)
  ordered : ∀ lap ∈ laps, lap.1 ≤ lap.2
  spaced : laps.IsChain fun lap next => IsNext interval origin lap.2 next.1
  current : ∀ start ∈ running, Due interval origin laps start

section Regular

variable {interval origin start moment : ℚ} {laps : List (ℚ × ℚ)}

theorem on_grid_first (interval origin : ℚ) : OnGrid interval origin (origin + interval) :=
  ⟨1, Nat.one_pos, by rw [Nat.cast_one, one_mul]⟩

theorem Due.grid (due : Due interval origin laps moment) : OnGrid interval origin moment := by
  cases last : laps.getLast? with
  | none =>
    rw [due.first (List.getLast?_eq_none_iff.mp last)]
    exact on_grid_first interval origin
  | some lap => exact (due.next lap last).onGrid

theorem regular_nil : Regular interval origin [] none where
  first := nofun
  grid := nofun
  increasing := .nil
  ordered := nofun
  spaced := .nil
  current := nofun

theorem Regular.begin (regular : Regular interval origin laps none)
    (due : Due interval origin laps start) : Regular interval origin laps (some start) where
  first first isFirst := by
    cases laps with
    | nil =>
      cases isFirst
      exact due.first rfl
    | cons lap rest => exact regular.first first (by simpa [startsOf] using isFirst)
  grid other member := by
    rcases List.mem_append.mp member with before | last
    · exact regular.grid other (List.mem_append_left _ before)
    · cases Option.mem_toList.mp last
      exact due.grid
  increasing := by
    have increasing : (laps.map Prod.fst).IsChain (· < ·) := by
      simpa [startsOf] using regular.increasing
    refine List.isChain_append.mpr ⟨increasing, .singleton _, ?_⟩
    intro before isLast other isStart
    cases isStart
    rw [List.getLast?_map] at isLast
    obtain ⟨lap, last, rfl⟩ := Option.map_eq_some_iff.mp isLast
    exact (regular.ordered lap (List.mem_of_getLast? last)).trans_lt (due.next lap last).later
  ordered := regular.ordered
  spaced := regular.spaced
  current other isStart := by
    cases isStart
    exact due

theorem Regular.finish (regular : Regular interval origin laps (some start))
    (later : start ≤ moment) : Regular interval origin (laps ++ [(start, moment)]) none := by
  have same : startsOf (laps ++ [(start, moment)]) none = startsOf laps (some start) := by
    simp [startsOf]
  refine ⟨same ▸ regular.first, same ▸ regular.grid, same ▸ regular.increasing, ?_, ?_, nofun⟩
  · intro lap member
    rcases List.mem_append.mp member with before | last
    · exact regular.ordered lap before
    · rw [List.mem_singleton.mp last]
      exact later
  · refine List.isChain_append.mpr ⟨regular.spaced, .singleton _, ?_⟩
    intro lap last next isNext
    cases isNext
    exact (regular.current start rfl).next lap last

/-- The start of each tick is a whole number of steps from the origin, each more than the last. -/
theorem Regular.steps {running : Option ℚ} (positive : 0 < interval)
    (regular : Regular interval origin laps running) :
    ∃ steps : List ℕ, startsOf laps running = steps.map (fun count : ℕ => origin + count * interval) ∧
      (∀ count ∈ steps, 0 < count) ∧ steps.Pairwise (· < ·) := by
  have listed (starts : List ℚ)
      (grid : ∀ start ∈ starts, OnGrid interval origin start) :
      ∃ steps : List ℕ, starts = steps.map (fun count : ℕ => origin + count * interval) ∧
        ∀ count ∈ steps, 0 < count := by
    induction starts with
    | nil => exact ⟨[], rfl, nofun⟩
    | cons start starts induction =>
      obtain ⟨count, some, rfl⟩ := grid start List.mem_cons_self
      obtain ⟨steps, rfl, every⟩ := induction fun start member =>
        grid start (List.mem_cons_of_mem _ member)
      exact ⟨count :: steps, rfl, List.forall_mem_cons.mpr ⟨some, every⟩⟩
  obtain ⟨steps, onGrid, every⟩ := listed _ regular.grid
  refine ⟨steps, onGrid, every, ?_⟩
  have increasing := List.isChain_iff_pairwise.mp regular.increasing
  rw [onGrid, List.pairwise_map] at increasing
  refine increasing.imp fun {fewer more} less => ?_
  have scaled : (fewer : ℚ) * interval < more * interval := by linarith
  exact_mod_cast lt_of_mul_lt_mul_right scaled positive.le

end Regular

/-! ### The loop keeps to the grid -/

namespace Timetable

variable {interval origin : ℚ} {table : Timetable ℚ}

/-- Where the loop stands at a time: it sleeps until the next tick is due, it is in a tick that began
when it was due, or it has failed for want of a snapshot. -/
def InPhase (interval origin clock : ℚ) (laps : List (ℚ × ℚ)) (running : Option ℚ) :
    Loop ℚ → Prop
  | .absent => False
  | .waiting deadline wakeAt =>
    running = none ∧ wakeAt = deadline ∧ clock ≤ deadline ∧ Due interval origin laps deadline
  | .ticking deadline => running = some deadline ∧ deadline ≤ clock
  | .failed error => running = none ∧ ∃ cause, error = .take cause

structure Paced (interval origin : ℚ) (table : Timetable ℚ) : Prop where
  isInterval : table.ticker.interval = interval
  coherent : table.ticker.Coherent
  unstopped : table.ticker.stops = []
  regular : Regular interval origin table.laps table.running
  phase : InPhase interval origin table.clock table.laps table.running table.ticker.loop

theorem sleep_until_rat {deadline now : ℚ} (ahead : now < deadline) :
    Ticker.sleepUntil deadline now = .waiting deadline deadline := by
  have wakes : Timeline.wait now (deadline - now) = deadline := by
    have some : 0 < deadline - now := sub_pos.mpr ahead
    change (if 0 < deadline - now then now + (deadline - now) else now) = deadline
    rw [if_pos some, add_sub_cancel]
  rw [Ticker.sleepUntil, wakes]

theorem resumed_rat (positive : 0 < interval) {deadline now : ℚ} (reached : deadline ≤ now)
    (grid : OnGrid interval origin deadline) :
    ∃ next, Ticker.resumed interval now deadline = .waiting next next ∧
      IsNext interval origin now next := by
  obtain ⟨next, found, isNext⟩ := Ticker.next_on_grid positive reached grid
  refine ⟨next, ?_, isNext⟩
  rw [Ticker.resumed, found]
  exact sleep_until_rat isNext.later

theorem start_paced {ticker : Ticker ℚ} (positive : 0 < interval)
    (isInterval : ticker.interval = interval) (coherent : ticker.Coherent)
    (absent : ticker.loop = .absent) (unstopped : ticker.stops = [])
    (found : Except Feed.TakeError (Option Snapshot)) :
    Paced interval origin ⟨(ticker.step origin found .start).1, origin, [], none⟩ := by
  have started : (ticker.step origin found .start).1 =
      { ticker with loop := .waiting (origin + interval) (origin + interval) } := by
    rw [← sleep_until_rat (lt_add_of_pos_right origin positive), ← isInterval]
    simp only [Ticker.step, absent]
  have kept : (ticker.step origin found .start).1.Coherent :=
    (Ticker.step_proper coherent origin .start).coherent
  rw [started] at kept ⊢
  exact ⟨isInterval, kept, unstopped, regular_nil, rfl, rfl, (lt_add_of_pos_right _ positive).le,
    fun _ => rfl, fun _ last => absurd last (Option.not_mem_none _)⟩

theorem due_after {laps : List (ℚ × ℚ)} {lap : ℚ × ℚ} {next : ℚ}
    (isNext : IsNext interval origin lap.2 next) : Due interval origin (laps ++ [lap]) next where
  first nil := by simp at nil
  next last isLast := by
    rw [List.getLast?_concat] at isLast
    cases isLast
    exact isNext

/-- A turn of the loop keeps its laps regular and leaves it in phase. -/
theorem turn_paced (positive : 0 < interval) {laps : List (ℚ × ℚ)} {running : Option ℚ}
    (regular : Regular interval origin laps running) {clock now : ℚ} {before after : Loop ℚ}
    {starts ends : Bool} (turn : Ticker.LoopTurn interval now before starts ends after)
    (phase : InPhase interval origin clock laps running before) (later : clock ≤ now)
    (punctual : ∀ deadline wakeAt, before = .waiting deadline wakeAt →
      now ≤ wakeAt ∧ (starts = true → now = wakeAt)) :
    let begun := if starts then some now else running
    let lapsAfter :=
      if ends then laps ++ begun.toList.map (fun start => (start, now)) else laps
    let runningAfter := if ends then none else begun
    Regular interval origin lapsAfter runningAfter ∧
      InPhase interval origin now lapsAfter runningAfter after := by
  cases turn with
  | rest =>
    refine ⟨regular, ?_⟩
    cases before with
    | absent => exact phase
    | waiting deadline wakeAt =>
      obtain ⟨idle, rfl, _, due⟩ := phase
      exact ⟨idle, rfl, (punctual _ _ rfl).1, due⟩
    | ticking deadline => exact ⟨phase.1, phase.2.trans later⟩
    | failed error => exact phase
  | enter deadline wakeAt =>
    obtain ⟨rfl, rfl, _, due⟩ := phase
    obtain rfl := (punctual _ _ rfl).2 rfl
    exact ⟨regular.begin due, rfl, le_rfl⟩
  | pass deadline wakeAt =>
    obtain ⟨rfl, rfl, _, due⟩ := phase
    obtain rfl := (punctual _ _ rfl).2 rfl
    obtain ⟨next, resumes, isNext⟩ := resumed_rat positive le_rfl due.grid
    rw [resumes]
    exact ⟨(regular.begin due).finish le_rfl, rfl, rfl, isNext.later.le, due_after isNext⟩
  | fail deadline wakeAt error =>
    obtain ⟨rfl, rfl, _, due⟩ := phase
    obtain rfl := (punctual _ _ rfl).2 rfl
    exact ⟨(regular.begin due).finish le_rfl, rfl, error, rfl⟩
  | leave deadline =>
    obtain ⟨rfl, begun⟩ := phase
    have reached := begun.trans later
    obtain ⟨next, resumes, isNext⟩ :=
      resumed_rat positive reached (regular.current deadline rfl).grid
    rw [resumes]
    exact ⟨regular.finish reached, rfl, rfl, isNext.later.le, due_after isNext⟩

/-- What any event but a stop keeps, if it comes no earlier than those before and wakes the loop when
it is due. -/
theorem hear_paced (positive : 0 < interval) (paced : Paced interval origin table) {now : ℚ}
    {event : Ticker.Event} (found : Except Feed.TakeError (Option Snapshot))
    (later : table.clock ≤ now) (notStop : event ≠ .stop)
    (punctual : table.ticker.Punctual now event) :
    Paced interval origin (table.hear now event found) := by
  have present : table.ticker.loop ≠ .absent := by
    intro absent
    have phase := paced.phase
    rw [absent] at phase
    exact phase
  have coherent : (table.ticker.step now found event).1.Coherent :=
    (Ticker.step_proper paced.coherent now event).coherent
  obtain ⟨stops, isInterval, turn⟩ :=
    Ticker.step_unstopped paced.coherent paced.unstopped present notStop now found
  rw [paced.isInterval] at turn
  obtain ⟨regular, phase⟩ := turn_paced positive paced.regular turn paced.phase later
    fun deadline wakeAt asleep =>
      ⟨(punctual deadline wakeAt asleep).1, fun starts =>
        (punctual deadline wakeAt asleep).2 (Ticker.wake_of_loop_starts starts)⟩
  exact ⟨isInterval.trans paced.isInterval, coherent, stops, regular, phase⟩

theorem undisturbed_paced (positive : 0 < interval)
    (undisturbed : Undisturbed interval origin table) : Paced interval origin table := by
  induction undisturbed with
  | start isInterval coherent absent unstopped found =>
    exact start_paced positive isInterval coherent absent unstopped found
  | hear found later notStop punctual _ induction =>
    exact hear_paced positive induction found later notStop punctual

/-- A loop that is started and not stopped: its first tick starts one interval after it, each tick a
whole number of intervals after it, later ones after more intervals; and when a tick ends, the next
one starts at the first such moment that is still to come. So it is with the tick that the loop is
waiting for, which is never overdue; and the loop goes on unless it fails for want of a snapshot. -/
theorem loop_keeps_to_grid {interval origin : ℚ} (positive : 0 < interval) {table : Timetable ℚ}
    (undisturbed : Undisturbed interval origin table) :
    let starts := startsOf table.laps table.running
    (∀ start ∈ starts.head?, start = origin + interval) ∧
    (∃ steps : List ℕ, starts = steps.map (fun count : ℕ => origin + count * interval) ∧
      (∀ count ∈ steps, 0 < count) ∧ steps.Pairwise (· < ·)) ∧
    (∀ lap ∈ table.laps, lap.1 ≤ lap.2) ∧
    (table.laps.IsChain fun lap next => IsNext interval origin lap.2 next.1) ∧
    (∀ start ∈ table.running, Due interval origin table.laps start) ∧
    InPhase interval origin table.clock table.laps table.running table.ticker.loop := by
  have paced := undisturbed_paced positive undisturbed
  have regular := paced.regular
  exact ⟨regular.first, regular.steps positive, regular.ordered, regular.spaced, regular.current,
    paced.phase⟩

/-- A loop that was started at 1 with an interval of 2: its first tick ended on a point of the grid,
its second one after two more points had passed. -/
def afterSlowTicks : Timetable ℚ :=
  ⟨⟨2, 10, .waiting 13 13, none, []⟩, 12, [(3, 5), (7, 12)], none⟩

theorem slow_ticks_undisturbed (snapshot : Snapshot) : Undisturbed 2 1 afterSlowTicks := by
  have asleep : Ticker.sleepUntil (1 + 2 : ℚ) 1 = .waiting 3 3 := by
    rw [sleep_until_rat] <;> norm_num
  have second : Ticker.nextDeadline (2 : ℚ) 3 5 = .ok 7 := by
    rw [Ticker.next_deadline_rat]
    norm_num
  have third : Ticker.nextDeadline (2 : ℚ) 7 12 = .ok 13 := by
    rw [Ticker.next_deadline_rat]
    norm_num
  have untilSecond : Ticker.sleepUntil (7 : ℚ) 5 = .waiting 7 7 := sleep_until_rat (by norm_num)
  have untilThird : Ticker.sleepUntil (13 : ℚ) 12 = .waiting 13 13 := sleep_until_rat (by norm_num)
  have started : Undisturbed 2 1 (⟨⟨2, 10, .waiting 3 3, none, []⟩, 1, [], none⟩ : Timetable ℚ) := by
    have start := @Undisturbed.start ℚ _ 2 1 (Ticker.make 2 10) rfl rfl rfl rfl (.ok none)
    simpa [Ticker.step, Ticker.make, asleep] using start
  have writing : Undisturbed 2 1 (⟨⟨2, 10, .ticking 3, some ⟨.loop, snapshot, .writing⟩, []⟩, 3,
      [], some 3⟩ : Timetable ℚ) := by
    have woken := @Undisturbed.hear ℚ _ 2 1 _ 3 .wake (.ok (some snapshot))
      (by norm_num) (by decide) (by simp [Ticker.Punctual]) started
    simpa [hear, Ticker.step, Ticker.begin, Ticker.loopStarts, Ticker.loopEnds, Ticker.asks,
      Loop.inTick] using woken
  have publishing : Undisturbed 2 1 (⟨⟨2, 10, .ticking 3,
      some ⟨.loop, snapshot, .publishing⟩, []⟩, 4, [], some 3⟩ : Timetable ℚ) := by
    have written := @Undisturbed.hear ℚ _ 2 1 _ 4 .written (.ok none)
      (by norm_num) (by decide) (by simp [Ticker.Punctual]) writing
    simpa [hear, Ticker.step, Ticker.begin, Ticker.loopStarts, Ticker.loopEnds, Ticker.asks,
      Loop.inTick] using written
  have resumed : Undisturbed 2 1 (⟨⟨2, 10, .waiting 7 7, none, []⟩, 5, [(3, 5)], none⟩ :
      Timetable ℚ) := by
    have published := @Undisturbed.hear ℚ _ 2 1 _ 5 .published (.ok none)
      (by norm_num) (by decide) (by simp [Ticker.Punctual]) publishing
    simpa [hear, Ticker.step, Ticker.finish, Ticker.conclude, Ticker.resume, second, untilSecond,
      Ticker.loopStarts, Ticker.loopEnds, Ticker.asks, Loop.inTick] using published
  have writingAgain : Undisturbed 2 1 (⟨⟨2, 10, .ticking 7, some ⟨.loop, snapshot, .writing⟩, []⟩, 7,
      [(3, 5)], some 7⟩ : Timetable ℚ) := by
    have woken := @Undisturbed.hear ℚ _ 2 1 _ 7 .wake (.ok (some snapshot))
      (by norm_num) (by decide) (by simp [Ticker.Punctual]) resumed
    simpa [hear, Ticker.step, Ticker.begin, Ticker.loopStarts, Ticker.loopEnds, Ticker.asks,
      Loop.inTick] using woken
  have notWritten := @Undisturbed.hear ℚ _ 2 1 _ 12 .notWritten (.ok none)
    (by norm_num) (by decide) (by simp [Ticker.Punctual]) writingAgain
  simpa [afterSlowTicks, hear, Ticker.step, Ticker.finish, Ticker.conclude, Ticker.resume, third,
    untilThird, Ticker.loopStarts, Ticker.loopEnds, Ticker.asks, Loop.inTick] using notWritten

theorem loop_keeps_to_grid_after_slow_ticks :
    (0 : ℚ) < 2 ∧ Undisturbed 2 1 afterSlowTicks ∧ IsNext (2 : ℚ) 1 5 7 ∧
      Due 2 1 [(3, 5), (7, 12)] 13 := by
  have positive : (0 : ℚ) < 2 := by norm_num
  have undisturbed := slow_ticks_undisturbed ⟨⟨0, by decide⟩, []⟩
  obtain ⟨_, _, _, spaced, _, phase⟩ := loop_keeps_to_grid positive undisturbed
  exact ⟨positive, undisturbed, (List.isChain_cons_cons.mp spaced).1, phase.2.2.2⟩

end Timetable
end PriceBoard
