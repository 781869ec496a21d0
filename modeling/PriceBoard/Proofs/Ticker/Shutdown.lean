import PriceBoard.Proofs.Ticker.Course

/-!
# Starting and stopping

A stop lets the tick in flight end if that takes less than the grace period, and gives it up after the
grace period if it takes more. Once a stop has returned nothing happens until the next start, and the
first tick after that comes one interval later.
-/
namespace PriceBoard.Rehearsal

/-! ### Waiting for a stop to return -/

/-- What a call may lead to while a stop has not returned. -/
inductive Awaits (called : Rehearsal ℚ) : Rehearsal ℚ → Prop
  | call : Awaits called called
  | due {rehearsal : Rehearsal ℚ} {time : ℚ} {event : Ticker.Event}
      (waits : rehearsal.ticker.stops ≠ []) (next : rehearsal.next? = some (time, event)) :
      Awaits called rehearsal → Awaits called (rehearsal.jump time event)
  | update {rehearsal : Rehearsal ℚ} {time : ℚ} (feed : String) (value : Float)
      (waits : rehearsal.ticker.stops ≠ []) (free : rehearsal.Free time) :
      Awaits called rehearsal → Awaits called ((rehearsal.reach time).act (.update feed value))

/-- A stop waits, until a limit, for a tick that will end at a time: what had been seen when it was
called and what of the tick was then ahead, with what has come of it since. -/
inductive Outlook (limit finish : ℚ) (seen ahead : List (ℚ × Note)) (rehearsal : Rehearsal ℚ) :
    Prop
  | waits (snapshot : Snapshot) (stage : Stage) (due : ℚ) (done : List (ℚ × Note))
      (inFlight : rehearsal.InFlight snapshot stage due)
      (stops : rehearsal.ticker.stops = [limit]) (early : rehearsal.clock ≤ limit)
      (positive : 0 < rehearsal.ticker.interval) (ends : rehearsal.tickEnd = finish)
      (notes : rehearsal.notes = seen ++ done) (rest : ahead = done ++ rehearsal.ahead)
      (doneEarly : ∀ note ∈ done, note.1 ≤ limit)
  | ran (silent : rehearsal.Silent) (inTime : finish ≤ limit) (clock : rehearsal.clock = finish)
      (notes : rehearsal.notes = seen ++ ahead ++ [(finish, .stopped false)])
  | cut (stage : Stage) (done later : List (ℚ × Note)) (silent : rehearsal.Silent)
      (late : limit ≤ finish) (clock : rehearsal.clock = limit) (split : ahead = done ++ later)
      (doneEarly : ∀ note ∈ done, note.1 ≤ limit) (laterLate : ∀ note ∈ later, limit ≤ note.1)
      (notes : rehearsal.notes = seen ++ done ++ givenUp stage limit ++ [(limit, .stopped true)])

section Outlook

variable {rehearsal : Rehearsal ℚ} {snapshot : Snapshot} {stage : Stage} {due limit finish : ℚ}
  {seen ahead : List (ℚ × Note)}

theorem InFlight.tick_end (inFlight : rehearsal.InFlight snapshot stage due) :
    rehearsal.tickEnd =
      if rehearsal.outcome stage = .written then rehearsal.published due else due := by
  rw [tickEnd, inFlight.owed]
  rcases rehearsal.outcome_cases stage with ⟨_, ends | ends⟩ | ⟨_, ends | ends⟩ <;>
    simp only [ends] <;> rfl

theorem due_le_tick_end (inFlight : rehearsal.InFlight snapshot stage due) :
    due ≤ rehearsal.tickEnd := by
  rw [inFlight.tick_end]
  split
  · exact wait_late ..
  · exact le_rfl

theorem tick_end_last (inFlight : rehearsal.InFlight snapshot stage due)
    (last : rehearsal.outcome stage ≠ .written) : rehearsal.tickEnd = due := by
  rw [inFlight.tick_end, if_neg last]

theorem handed_on_at (rehearsal : Rehearsal ℚ) (snapshot : Snapshot) (time : ℚ) :
    ∀ note ∈ rehearsal.handedOn snapshot time, note.1 = time := by
  intro note member
  unfold handedOn at member
  split at member
  · rw [List.mem_singleton.mp member]
  · cases member

/-- What is ahead of a tick comes no earlier than the end of its stage. -/
theorem due_le_ahead (inFlight : rehearsal.InFlight snapshot stage due) :
    ∀ note ∈ rehearsal.ahead, due ≤ note.1 := by
  intro note member
  rcases rehearsal.outcome_cases stage with ⟨_, ends | ends⟩ | ⟨_, ends | ends⟩ <;>
    simp only [Rehearsal.ahead, inFlight.current, inFlight.owed, ends] at member
  · rcases List.mem_cons.mp member with rfl | emitted
    · exact le_rfl
    · rw [handed_on_at _ _ _ _ emitted]
      exact wait_late ..
  · rw [List.mem_singleton.mp member]
  · rw [handed_on_at _ _ _ _ member]
  · rw [handed_on_at _ _ _ _ member]

theorem publishing_last (rehearsal : Rehearsal ℚ) : rehearsal.outcome .publishing ≠ .written := by
  intro succeeds
  cases stage_of_written succeeds

theorem ahead_publishing (inFlight : rehearsal.InFlight snapshot .publishing due) :
    rehearsal.ahead = rehearsal.handedOn snapshot due := by
  rcases rehearsal.outcome_cases .publishing with ⟨isStage, _⟩ | ⟨_, ends | ends⟩
  · cases isStage
  all_goals simp only [Rehearsal.ahead, inFlight.current, inFlight.owed, ends]

/-- When a write is done its tick goes on to publish, and ends when it would have ended. -/
theorem written_goes_on (inFlight : rehearsal.InFlight snapshot .writing due)
    (succeeds : rehearsal.outcome .writing = .written) :
    let after := rehearsal.jump due (rehearsal.outcome .writing)
    after.InFlight snapshot .publishing (rehearsal.published due) ∧
      rehearsal.ahead = (due, .publish newData) :: after.ahead ∧
      after.tickEnd = rehearsal.tickEnd := by
  have inFlightAfter : (rehearsal.jump due (rehearsal.outcome .writing)).InFlight snapshot
      .publishing (rehearsal.published due) := by
    rw [jump_written inFlight succeeds]
    exact ⟨inFlight.inTick, rfl, rfl, wait_late ..⟩
  refine ⟨inFlightAfter, ?_, ?_⟩
  · rw [ahead_publishing inFlightAfter, jump_written inFlight succeeds]
    simp only [Rehearsal.ahead, inFlight.current, inFlight.owed, succeeds]
    rfl
  · rw [tick_end_last inFlightAfter (publishing_last _), inFlight.tick_end, if_pos succeeds]

/-- The end of a stage, no later than the limit. -/
theorem outlook_stage (inFlight : rehearsal.InFlight snapshot stage due)
    (stops : rehearsal.ticker.stops = [limit]) (positive : 0 < rehearsal.ticker.interval)
    (ends : rehearsal.tickEnd = finish) {done : List (ℚ × Note)}
    (notes : rehearsal.notes = seen ++ done) (rest : ahead = done ++ rehearsal.ahead)
    (doneEarly : ∀ note ∈ done, note.1 ≤ limit) (inTime : due ≤ limit) :
    Outlook limit finish seen ahead (rehearsal.jump due (rehearsal.outcome stage)) := by
  by_cases succeeds : rehearsal.outcome stage = .written
  · obtain rfl := stage_of_written succeeds
    obtain ⟨inFlightAfter, aheadAfter, endAfter⟩ := written_goes_on inFlight succeeds
    have jumped := jump_written inFlight succeeds
    refine .waits snapshot .publishing _ (done ++ [(due, .publish newData)]) inFlightAfter ?_ ?_ ?_
      (endAfter.trans ends) ?_ ?_ ?_
    · rw [jumped]
      exact stops
    · rw [jumped]
      exact inTime
    · rw [jumped]
      exact positive
    · rw [jumped, notes, List.append_assoc]
    · rw [rest, aheadAfter, List.append_assoc]
      rfl
    · intro note member
      rcases List.mem_append.mp member with before | last
      · exact doneEarly note before
      · rw [List.mem_singleton.mp last]
        exact inTime
  · obtain ⟨metrics, jumped⟩ := jump_end_stopped positive inFlight succeeds stops
    have isEnd : finish = due := ends.symm.trans (tick_end_last inFlight succeeds)
    rw [jumped, isEnd]
    refine .ran ⟨rfl, rfl, rfl, rfl⟩ inTime rfl ?_
    rw [rest, notes]
    simp only [List.append_assoc]

/-- The limit is reached before the stage ends. -/
theorem outlook_cut (inFlight : rehearsal.InFlight snapshot stage due)
    (stops : rehearsal.ticker.stops = [limit])
    (ends : rehearsal.tickEnd = finish) {done : List (ℚ × Note)}
    (notes : rehearsal.notes = seen ++ done) (rest : ahead = done ++ rehearsal.ahead)
    (doneEarly : ∀ note ∈ done, note.1 ≤ limit) (past : limit < due) :
    Outlook limit finish seen ahead (rehearsal.jump limit .graceOver) := by
  obtain ⟨metrics, jumped⟩ := jump_grace_over inFlight stops past.le
  have late : limit ≤ finish := ends ▸ past.le.trans (due_le_tick_end inFlight)
  rw [jumped]
  refine .cut stage done rehearsal.ahead ⟨rfl, rfl, rfl, rfl⟩ late rfl rest doneEarly ?_ ?_
  · exact fun note member => past.le.trans (due_le_ahead inFlight note member)
  · rw [notes]

theorem next_of_outlook (outlook : Outlook limit finish seen ahead rehearsal) {time : ℚ}
    {event : Ticker.Event} (next : rehearsal.next? = some (time, event)) :
    Outlook limit finish seen ahead (rehearsal.jump time event) := by
  cases outlook with
  | waits snapshot stage due done inFlight stops early positive ends notes rest doneEarly =>
    rw [inFlight.next_before stops] at next
    by_cases past : limit < due
    · rw [if_pos past] at next
      cases next
      exact outlook_cut inFlight stops ends notes rest doneEarly past
    · rw [if_neg past] at next
      cases next
      exact outlook_stage inFlight stops positive ends notes rest doneEarly (not_lt.mp past)
  | ran silent _ _ _ | cut _ _ _ silent =>
    rw [next_of_silent silent] at next
    cases next

theorem update_of_outlook (outlook : Outlook limit finish seen ahead rehearsal)
    (waits : rehearsal.ticker.stops ≠ []) {time : ℚ} (free : rehearsal.Free time) (feed : String)
    (value : Float) :
    Outlook limit finish seen ahead ((rehearsal.reach time).act (.update feed value)) := by
  cases outlook with
  | waits snapshot stage due done inFlight stops early positive ends notes rest doneEarly =>
    obtain ⟨quotes, metrics, updated⟩ := (rehearsal.reach time).update_eq feed value
    obtain ⟨beforeDue, beforeLimit⟩ := inFlight.free_before stops free.2
    have inFlightAfter : InFlight { rehearsal.reach time with quotes, metrics } snapshot stage due :=
      ⟨inFlight.inTick, inFlight.current, inFlight.owed, beforeDue⟩
    rw [updated]
    refine .waits snapshot stage due done inFlightAfter stops beforeLimit positive ?_ notes rest
      doneEarly
    rw [← ends, inFlightAfter.tick_end, inFlight.tick_end]
    rfl
  | ran silent _ _ _ | cut _ _ _ silent => exact absurd silent.stops waits

theorem awaits_outlook {called : Rehearsal ℚ} (outlook : Outlook limit finish seen ahead called)
    (awaits : Awaits called rehearsal) : Outlook limit finish seen ahead rehearsal := by
  induction awaits with
  | call => exact outlook
  | due _ next _ induction => exact next_of_outlook induction next
  | update feed value waits free _ induction =>
    exact update_of_outlook induction waits free feed value

theorem settle_of_silent (silent : rehearsal.Silent) (budget : ℕ) :
    rehearsal.settle budget = rehearsal := by
  cases budget with
  | zero => rfl
  | succ budget =>
    have idle : rehearsal.busy = false := by simp [busy, silent.stops, silent.current]
    simp [settle, idle]

theorem settle_waiting (waits : rehearsal.ticker.stops ≠ []) {time : ℚ} {event : Ticker.Event}
    (next : rehearsal.next? = some (time, event)) (budget : ℕ) :
    rehearsal.settle (budget + 1) = (rehearsal.jump time event).settle budget := by
  have busy : rehearsal.busy = true := by simp [busy, waits]
  simp [settle, busy, next]

def stagesLeft (rehearsal : Rehearsal ℚ) : ℕ :=
  match rehearsal.ticker.current with
  | none => 0
  | some tick =>
    match tick.stage with
    | .writing => 2
    | .publishing => 1

theorem InFlight.stages_left (inFlight : rehearsal.InFlight snapshot stage due) :
    0 < rehearsal.stagesLeft := by
  rw [stagesLeft, inFlight.current]
  cases stage with
  | writing => exact Nat.two_pos
  | publishing => exact Nat.one_pos

theorem stages_left_of_jump (inFlight : rehearsal.InFlight snapshot stage due)
    (stops : rehearsal.ticker.stops = [limit]) (positive : 0 < rehearsal.ticker.interval) :
    ∃ time event, rehearsal.next? = some (time, event) ∧
      (rehearsal.jump time event).stagesLeft < rehearsal.stagesLeft := by
  have some := inFlight.stages_left
  rw [inFlight.next_before stops]
  by_cases past : limit < due
  · obtain ⟨metrics, jumped⟩ := jump_grace_over inFlight stops past.le
    refine ⟨limit, .graceOver, if_pos past, ?_⟩
    rw [jumped]
    exact some
  · refine ⟨due, rehearsal.outcome stage, if_neg past, ?_⟩
    by_cases succeeds : rehearsal.outcome stage = .written
    · obtain rfl := stage_of_written succeeds
      rw [jump_written inFlight succeeds, stagesLeft, stagesLeft, inFlight.current]
      exact Nat.one_lt_two
    · obtain ⟨metrics, jumped⟩ := jump_end_stopped positive inFlight succeeds stops
      rw [jumped]
      exact some

/-- A stop returns as soon as there are no more stages to end. -/
theorem settle_returns (outlook : Outlook limit finish seen ahead rehearsal) {budget : ℕ}
    (enough : rehearsal.stagesLeft ≤ budget) :
    Outlook limit finish seen ahead (rehearsal.settle budget) ∧
      (rehearsal.settle budget).Silent := by
  -- Whatever is due while the stop waits ends a stage or ends the wait.
  induction budget generalizing rehearsal with
  | zero =>
    have kept := outlook
    cases outlook with
    | waits snapshot stage due done inFlight =>
      exact absurd inFlight.stages_left (by omega)
    | ran silent | cut _ _ _ silent => exact ⟨kept, silent⟩
  | succ budget induction =>
    have kept := outlook
    cases outlook with
    | waits snapshot stage due done inFlight stops early positive =>
      obtain ⟨time, event, next, fewer⟩ := stages_left_of_jump inFlight stops positive
      rw [settle_waiting (by simp [stops]) next]
      exact induction (next_of_outlook kept next) (by omega)
    | ran silent | cut _ _ _ silent =>
      rw [settle_of_silent silent]
      exact ⟨kept, silent⟩

theorem stages_left_le (rehearsal : Rehearsal ℚ) : rehearsal.stagesLeft ≤ 2 := by
  unfold stagesLeft
  split
  · exact Nat.zero_le _
  · split
    · exact le_rfl
    · exact Nat.one_lt_two.le

/-- A stop that is called while the loop's tick is in flight. -/
theorem stop_outlook (positive : 0 < rehearsal.ticker.interval)
    (nonneg : 0 ≤ rehearsal.ticker.grace) (inFlight : rehearsal.InFlight snapshot stage due)
    (returned : rehearsal.ticker.stops = []) :
    Outlook (rehearsal.clock + rehearsal.ticker.grace) rehearsal.tickEnd rehearsal.notes
      rehearsal.ahead (rehearsal.act .stop) := by
  rcases nonneg.eq_or_lt with none | some
  · obtain ⟨metrics, stopped⟩ := stop_impatient inFlight returned none.symm
    have limit : rehearsal.clock + rehearsal.ticker.grace = rehearsal.clock := by
      rw [← none, add_zero]
    rw [stopped, limit]
    refine .cut stage [] rehearsal.ahead ⟨rfl, rfl, rfl, rfl⟩
      (inFlight.clock.trans (due_le_tick_end inFlight)) rfl (List.nil_append _).symm
      (List.forall_mem_nil _) ?_ ?_
    · exact fun note member => inFlight.clock.trans (due_le_ahead inFlight note member)
    · rw [List.append_nil]
  · have inFlightAfter : (rehearsal.act .stop).InFlight snapshot stage due := by
      rw [stop_patient inFlight returned some]
      exact ⟨inFlight.inTick, inFlight.current, inFlight.owed, inFlight.clock⟩
    have sameEnd : (rehearsal.act .stop).tickEnd = rehearsal.tickEnd := by
      rw [inFlightAfter.tick_end, inFlight.tick_end, stop_patient inFlight returned some]
      rfl
    refine .waits snapshot stage due [] inFlightAfter ?_ ?_ ?_ sameEnd ?_ ?_
      (List.forall_mem_nil _)
    all_goals rw [stop_patient inFlight returned some]
    · exact (lt_add_of_pos_right _ some).le
    · exact positive
    · exact (List.append_nil _).symm
    · rfl

end Outlook

/-! ### Between a stop and the next start -/

inductive Idles (earlier : Rehearsal ℚ) : Rehearsal ℚ → Prop
  | here : Idles earlier earlier
  | due {rehearsal : Rehearsal ℚ} {time : ℚ} {event : Ticker.Event}
      (next : rehearsal.next? = some (time, event)) :
      Idles earlier rehearsal → Idles earlier (rehearsal.jump time event)
  | act {rehearsal : Rehearsal ℚ} {time : ℚ} {action : Action} (free : rehearsal.Free time)
      (calls : rehearsal.Calls action) (notStart : action ≠ .start) :
      Idles earlier rehearsal → Idles earlier ((rehearsal.reach time).act action)

def OnlyStops (notes : List (ℚ × Note)) : Prop := ∀ note ∈ notes, note.2 = .stopped false

section Idle

variable {rehearsal : Rehearsal ℚ}

theorem act_of_silent (silent : rehearsal.Silent) {action : Action}
    (calls : rehearsal.Calls action) (notStart : action ≠ .start) :
    (rehearsal.act action).Silent ∧
      ∃ answers, (rehearsal.act action).notes = rehearsal.notes ++ answers ∧ OnlyStops answers := by
  cases action with
  | start => exact absurd rfl notStart
  | tick => exact absurd calls id
  | update feed value =>
    obtain ⟨quotes, metrics, updated⟩ := rehearsal.update_eq feed value
    rw [updated]
    exact ⟨⟨silent.loop, silent.current, silent.owed, silent.stops⟩, [],
      (List.append_nil _).symm, List.forall_mem_nil _⟩
  | stop =>
    rw [stop_absent silent.loop]
    refine ⟨⟨silent.loop, silent.current, silent.owed, silent.stops⟩, [_], rfl, ?_⟩
    intro note member
    rw [List.mem_singleton.mp member]

theorem idles_silent {earlier : Rehearsal ℚ} (silent : earlier.Silent)
    (idles : Idles earlier rehearsal) :
    rehearsal.Silent ∧
      ∃ answers, rehearsal.notes = earlier.notes ++ answers ∧ OnlyStops answers := by
  induction idles with
  | here =>
    exact ⟨silent, [], (List.append_nil _).symm, List.forall_mem_nil _⟩
  | due next _ induction =>
    rw [next_of_silent induction.1] at next
    cases next
  | @act rehearsal time action free calls notStart _ induction =>
    obtain ⟨still, answers, notes, only⟩ := induction
    obtain ⟨after, more, added, onlyMore⟩ := act_of_silent (still.reach time) calls notStart
    refine ⟨after, answers ++ more, ?_, ?_⟩
    · rw [added]
      change rehearsal.notes ++ more = _
      rw [notes, List.append_assoc]
    · intro note member
      exact (List.mem_append.mp member).elim (only note) (onlyMore note)

theorem start_of_silent (silent : rehearsal.Silent) (positive : 0 < rehearsal.ticker.interval) :
    (rehearsal.act .start).next? =
      some (rehearsal.clock + rehearsal.ticker.interval, .wake) := by
  rw [start_absent silent.loop positive]
  exact next_of_waiting ⟨silent.current, silent.owed, silent.stops⟩ rfl

end Idle

/-! ### Starts and stops -/

/-- The tick that was in flight at a call came to its normal end, and the stop returned then. -/
structure RunsOut (called returned : Rehearsal ℚ) : Prop where
  clock : returned.clock = called.tickEnd
  notes : returned.notes = called.notes ++ called.ahead ++ [(called.tickEnd, .stopped false)]

/-- The tick that was in flight at a call was given up at a limit, and the stop returned then. What
was ahead of the tick until then has been done, and nothing of what was ahead after it. -/
structure CutOff (called : Rehearsal ℚ) (limit : ℚ) (returned : Rehearsal ℚ) : Prop where
  clock : returned.clock = limit
  notes : ∃ stage done later, called.ahead = done ++ later ∧ (∀ note ∈ done, note.1 ≤ limit) ∧
    (∀ note ∈ later, limit ≤ note.1) ∧
    returned.notes = called.notes ++ done ++ givenUp stage limit ++ [(limit, .stopped true)]

section Stop

variable {interval grace origin : ℚ} {rehearsal : Rehearsal ℚ}

theorem settle_course (course : Course interval grace origin rehearsal) (budget : ℕ) :
    Course interval grace origin (rehearsal.settle budget) := by
  induction budget generalizing rehearsal with
  | zero => exact course
  | succ budget induction =>
    unfold settle
    split
    · split
      · exact course
      · rename_i next
        exact induction (.due next course)
    · exact course

theorem awaits_course {called : Rehearsal ℚ} (course : Course interval grace origin called)
    (awaits : Awaits called rehearsal) : Course interval grace origin rehearsal := by
  induction awaits with
  | call => exact course
  | due _ next _ induction => exact .due next induction
  | @update rehearsal time feed value _ free _ induction =>
    have updated : Course interval grace (rehearsal.startedBy time origin (.update feed value))
        ((rehearsal.reach time).act (.update feed value)) := .act free True.intro induction
    exact updated

theorem outcome_not_wake (rehearsal : Rehearsal ℚ) (stage : Stage) :
    rehearsal.outcome stage ≠ .wake := by
  intro wakes
  rcases rehearsal.outcome_cases stage with ⟨_, ends | ends⟩ | ⟨_, ends | ends⟩ <;>
    cases ends.symm.trans wakes

theorem wake_on_grid (phase : rehearsal.Phase origin) {time : ℚ}
    (next : rehearsal.next? = some (time, .wake)) :
    OnGrid rehearsal.ticker.interval origin time := by
  cases phase with
  | silent silent =>
    rw [next_of_silent silent] at next
    cases next
  | failed error failed settled =>
    rw [next_of_failed settled failed] at next
    cases next
  | waiting deadline asleep settled _ grid =>
    rw [next_of_waiting settled asleep] at next
    obtain ⟨rfl, _⟩ := Prod.mk.inj (Option.some.inj next)
    exact grid
  | ticking snapshot stage due deadline inFlight inside begun grid patience =>
    rcases patience with stops | ⟨limit, stops, _⟩
    · rw [inFlight.next stops] at next
      exact absurd (Prod.mk.inj (Option.some.inj next)).2 (rehearsal.outcome_not_wake stage)
    · rw [inFlight.next_before stops] at next
      split at next
      · cases (Prod.mk.inj (Option.some.inj next)).2
      · exact absurd (Prod.mk.inj (Option.some.inj next)).2 (rehearsal.outcome_not_wake stage)

theorem not_waiting_of_outlook {limit finish : ℚ} {seen ahead : List (ℚ × Note)}
    (outlook : Outlook limit finish seen ahead rehearsal) : rehearsal.ticker.asks .wake = none := by
  cases outlook with
  | waits snapshot stage due done inFlight =>
    obtain ⟨deadline, inside⟩ := inFlight.inTick
    simp [Ticker.asks, inside]
  | ran silent | cut _ _ _ silent => simp [Ticker.asks, silent.loop]

/-- How a stop that waited has returned, by when its tick would have ended. -/
theorem returned_of_outlook {called returned : Rehearsal ℚ} {limit : ℚ}
    (outlook : Outlook limit called.tickEnd called.notes called.ahead returned)
    (silent : returned.Silent) :
    (called.tickEnd < limit → RunsOut called returned) ∧
      (limit < called.tickEnd → CutOff called limit returned) := by
  cases outlook with
  | waits snapshot stage due done inFlight stops => exact absurd silent.stops (by simp [stops])
  | ran _ inTime clock notes =>
    exact ⟨fun _ => ⟨clock, notes⟩, fun late => absurd inTime late.not_ge⟩
  | cut stage done later _ late clock split doneEarly laterLate notes =>
    exact ⟨fun inTime => absurd late inTime.not_ge,
      fun _ => ⟨clock, stage, done, later, split, doneEarly, laterLate, notes⟩⟩

/-- Starts and stops in any order, each awaited. There is one loop: a start while it is present changes
nothing, and it wakes only on the grid of its own start. A stop with no tick in flight returns at
once. With a tick in flight it lets no other begin, and returns when that tick ends, if the tick needs
less than the grace period, or else when the grace period is over, which gives the tick up. After that
nothing is seen until the next start, one interval before the first thing that is due. -/
theorem starts_and_stops (positive : 0 < interval) (nonneg : 0 ≤ grace)
    (course : Course interval grace origin rehearsal) :
    (rehearsal.ticker.loop ≠ .absent → rehearsal.act .start = rehearsal) ∧
    (∀ time, rehearsal.next? = some (time, .wake) → OnGrid interval origin time) ∧
    (∀ time, rehearsal.Free time → rehearsal.ticker.stops = [] →
      let called := rehearsal.reach time
      (called.ticker.loop.inTick = false →
        (called.act .stop).Silent ∧ ∃ answer,
          (answer = .stopped false ∨ ∃ error, answer = .stopFailed error) ∧
            (called.act .stop).notes = rehearsal.notes ++ [(time, answer)]) ∧
      (called.ticker.loop.inTick = true → ∀ waiting, Awaits (called.act .stop) waiting →
        waiting.ticker.asks .wake = none ∧
        ∀ budget, 2 ≤ budget →
          Course interval grace origin (waiting.settle budget) ∧ (waiting.settle budget).Silent ∧
          (called.tickEnd - time < grace → RunsOut called (waiting.settle budget)) ∧
          (grace < called.tickEnd - time →
            CutOff called (time + grace) (waiting.settle budget)))) ∧
    (rehearsal.Silent →
      (∀ later, Idles rehearsal later → later.Silent ∧
        ∃ answers, later.notes = rehearsal.notes ++ answers ∧ OnlyStops answers) ∧
      ∀ time, rehearsal.Free time →
        ((rehearsal.reach time).act .start).next? = some (time + interval, .wake)) := by
  obtain ⟨rfl, rfl, phase⟩ := course_orderly positive nonneg course
  refine ⟨start_present, fun _ => wake_on_grid phase, ?_, ?_⟩
  · intro time free returned called
    have reached := (reach_orderly ⟨rfl, rfl, phase⟩ free).phase
    refine ⟨?_, ?_⟩
    · intro outside
      obtain ⟨answer, kind, stopped⟩ := reached.stop_outside outside
      exact ⟨reached.silent_of_stop outside, answer, kind, by rw [stopped]; rfl⟩
    intro inTick waiting awaits
    obtain ⟨snapshot, stage, due, _, inFlight, _⟩ := reached.in_flight inTick
    have stopped : Outlook (time + rehearsal.ticker.grace) called.tickEnd rehearsal.notes
        called.ahead (called.act .stop) :=
      @stop_outlook called snapshot stage due positive nonneg inFlight returned
    have outlook := awaits_outlook stopped awaits
    refine ⟨not_waiting_of_outlook outlook, ?_⟩
    intro budget enough
    obtain ⟨outlookAfter, silent⟩ :=
      settle_returns outlook ((stages_left_le waiting).trans enough)
    obtain ⟨runsOut, cutOff⟩ := returned_of_outlook outlookAfter silent
    have stopCourse : Course rehearsal.ticker.interval rehearsal.ticker.grace
        (rehearsal.startedBy time origin .stop) (called.act .stop) := .act free returned course
    refine ⟨settle_course (awaits_course stopCourse awaits) budget, silent, ?_, ?_⟩
    · exact fun soon => runsOut (sub_lt_iff_lt_add'.mp soon)
    · exact fun late => cutOff (lt_sub_iff_add_lt'.mp late)
  · intro silent
    refine ⟨fun _ => idles_silent silent, ?_⟩
    intro time _
    exact start_of_silent (silent.reach time) positive


end Stop

/-! A tick that needs 4 in all is stopped 1 after it began, with a grace period of 1. -/

theorem midnight_bounded : 0 < dayLimit * microsPerDay := by decide

def midnightUtc : DateTime := ⟨⟨0, midnight_bounded⟩, some Offset.utc⟩

def beforeStart : Rehearsal ℚ :=
  { Rehearsal.start (fun _ => ⟨3, false, false⟩) true midnightUtc (Ticker.make 2 1) ["btc"] with
    publishing := fun _ => 1 }

def quoted : Rehearsal ℚ :=
  { beforeStart with
    quotes := ⟨["btc"], [("btc", ⟨"btc", 1.5, midnightUtc⟩)]⟩
    metrics := [.feedUpdate "btc"] }

def asleep : Rehearsal ℚ := { quoted with ticker := ⟨2, 1, .waiting 2 2, none, []⟩ }

def snapshotAtTwo : Snapshot := ⟨⟨2000000, by decide⟩, [("btc", 1.5)]⟩

def midTick : Rehearsal ℚ :=
  { asleep with
    ticker := ⟨2, 1, .ticking 2, some ⟨.loop, snapshotAtTwo, .writing⟩, []⟩
    clock := 2
    inserts := 1
    owed := some (5, .written)
    notes := [(2, .insert snapshotAtTwo)] }

-- The kernel evaluates the rounding of a rational; `rfl` does not open it.
theorem micros_zero : Timeline.micros (0 : ℚ) = 0 := by decide +kernel

theorem micros_two : Timeline.micros (2 : ℚ) = 2000000 := by decide +kernel

theorem asleep_course : Course 2 1 0 asleep := by
  have opened : Course 2 1 0 beforeStart := .opening _ _ _ _ _ 0
  have silent : beforeStart.Silent := ⟨rfl, rfl, rfl, rfl⟩
  have reported : (beforeStart.reach 0).act (.update "btc" 1.5) = quoted := by
    have clock : (beforeStart.reach 0).wallClock = .ok midnightUtc := by
      change midnightUtc.plusMicros (Timeline.micros (0 : ℚ)) = _
      rw [micros_zero]
      decide +kernel
    simp only [act, clock]
    rfl
  have updated : Course 2 1 0 quoted := by
    have calls : beforeStart.Calls (.update "btc" 1.5) := True.intro
    rw [← reported]
    exact .act (silent.free le_rfl) calls opened
  have silentStill : quoted.Silent := ⟨rfl, rfl, rfl, rfl⟩
  have begun : (quoted.reach 0).act .start = asleep := by
    have first : (0 : ℚ) + 2 = 2 := zero_add 2
    rw [start_absent rfl (by decide +kernel)]
    change ({ quoted with ticker := ⟨2, 1, .waiting (0 + 2) (0 + 2), none, []⟩ } : Rehearsal ℚ) = _
    rw [first]
    rfl
  have calls : quoted.Calls .start := rfl
  rw [← begun]
  exact .act (silentStill.free le_rfl) calls updated

theorem mid_tick_course : Course 2 1 0 midTick := by
  have settled : asleep.Settled := ⟨rfl, rfl, rfl⟩
  have taken : asleep.quotes.take (asleep.reach 2).wallClock = .ok (some snapshotAtTwo) := by
    have clock : (asleep.reach 2).wallClock = .ok snapshotAtTwo.timestamp := by
      change midnightUtc.plusMicros (Timeline.micros (2 : ℚ)) = _
      rw [micros_two]
      decide +kernel
    rw [clock]
    rfl
  have written : Timeline.wait (2 : ℚ) 3 = 5 := by decide +kernel
  have begun : asleep.jump 2 .wake = midTick := by
    rw [(jump_wake_complete settled rfl taken).2]
    change ({ midTick with owed := some (Timeline.wait (2 : ℚ) 3, .written) } : Rehearsal ℚ) = _
    rw [written]
    rfl
  rw [← begun]
  exact .due (next_of_waiting settled rfl) asleep_course

theorem starts_and_stops_mid_tick :
    (0 : ℚ) < 2 ∧ (0 : ℚ) ≤ 1 ∧ Course 2 1 0 midTick ∧
      CutOff (midTick.reach 3) (3 + 1) (((midTick.reach 3).act .stop).settle 2) := by
  have positive : (0 : ℚ) < 2 := by norm_num
  have nonneg : (0 : ℚ) ≤ 1 := by norm_num
  have inFlight : midTick.InFlight snapshotAtTwo .writing 5 :=
    ⟨⟨2, rfl⟩, rfl, rfl, by decide +kernel⟩
  have free : midTick.Free 3 := by
    refine ⟨by decide +kernel, ?_⟩
    rw [inFlight.next rfl]
    rintro _ ⟨⟩
    norm_num
  have ends : (midTick.reach 3).tickEnd = 6 := by
    change Timeline.wait (5 : ℚ) 1 = 6
    decide +kernel
  obtain ⟨-, -, stops, -⟩ := starts_and_stops positive nonneg mid_tick_course
  obtain ⟨-, returns⟩ := stops 3 free rfl
  obtain ⟨-, -, cut⟩ := (returns rfl _ .call).2 2 le_rfl
  exact ⟨positive, nonneg, mid_tick_course, cut.2 (by rw [ends]; norm_num)⟩

end PriceBoard.Rehearsal
