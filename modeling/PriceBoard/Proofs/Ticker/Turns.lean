import PriceBoard.Ticker.Basic

/-!
# The turns of a ticker

What can be told of ticks from outside: who asked for one, whether it was dropped, what was done for
it, what came of that, when it ended. A direct tick ends with its answer, the loop's when the loop goes
on, fails or is given up. One event is one turn of the ticker, and there are only eight kinds of turn.
-/
namespace PriceBoard

inductive Sign where
  | dropped (caller : Caller)
  | begun (caller : Caller)
  | done (effect : Ticker.Effect)
  /-- What came of the write or the publishing in progress. -/
  | heard (outcome : Ticker.Event)
  | ended (caller : Caller)

def Stage.outcomes : Stage → List Ticker.Event
  | .writing => [.written, .notWritten]
  | .publishing => [.published, .notPublished]

def Loop.inTick {Time : Type} : Loop Time → Bool
  | .ticking _ => true
  | _ => false

namespace Ticker

variable {Time : Type}

def Effect.drops : Effect → Bool
  | .count (.tick .overlap) => true
  | _ => false

def Effect.answers : Effect → Bool
  | .returned _ | .raised _ => true
  | _ => false

/-- Whether the store, the channel or the listener has part in an effect. -/
def Effect.felt : Effect → Bool
  | .write _ | .publish _ | .emit _ | .cancel => true
  | _ => false

def hearing (ticker : Ticker Time) (event : Event) : List Sign :=
  match ticker.current with
  | some tick => if event ∈ tick.stage.outcomes then [.heard event] else []
  | none => []

def asks (ticker : Ticker Time) : Event → Option Caller
  | .tick => some .direct
  | .wake =>
    match ticker.loop with
    | .waiting _ _ => some .loop
    | _ => none
  | _ => none

def entrance (ticker : Ticker Time) (event : Event) (effects : List Effect) : List Sign :=
  match ticker.asks event with
  | none => []
  | some caller => [if effects.any Effect.drops then .dropped caller else .begun caller]

/-- The ticks that end when an event leads to a turn. A dropped tick has not begun. -/
def exits (ticker : Ticker Time) (event : Event) (turn : Ticker Time × List Effect) : List Sign :=
  if turn.2.any Effect.drops then []
  else
    (if turn.2.any Effect.answers then [.ended .direct] else []) ++
      (if (ticker.loop.inTick ∨ ticker.asks event = some .loop) ∧ ¬turn.1.loop.inTick then
        [.ended .loop] else [])

def signs (ticker : Ticker Time) (event : Event) (turn : Ticker Time × List Effect) : List Sign :=
  ticker.hearing event ++ ticker.entrance event turn.2 ++ turn.2.map .done ++
    ticker.exits event turn

end Ticker

def Sign.ofTick : Sign → Bool
  | .dropped _ => false
  | .done effect => effect.felt
  | .begun _ | .heard _ | .ended _ => true

/-- What is seen of the ticks that were not dropped. -/
def trail (signs : List Sign) : List Sign := signs.filter Sign.ofTick

@[simp] theorem trail_nil : trail [] = [] := rfl

@[simp] theorem trail_cons (sign : Sign) (signs : List Sign) :
    trail (sign :: signs) = if sign.ofTick then sign :: trail signs else trail signs :=
  List.filter_cons

@[simp] theorem trail_append (left right : List Sign) :
    trail (left ++ right) = trail left ++ trail right :=
  List.filter_append ..

/-- What one event does to the tick in progress: with what can be taken and who asks for a tick, the
tick before it, what is seen meanwhile, and the tick after it. -/
inductive Turn (found : Except Feed.TakeError (Option Snapshot)) :
    Option Caller → Option Tick → List Sign → Option Tick → Prop
  | still (current : Option Tick) : Turn found none current [] current
  | drop (caller : Caller) (tick : Tick) : Turn found (some caller) (some tick) [] (some tick)
  | pass (caller : Caller) (lacking : ∀ snapshot, found ≠ .ok (some snapshot)) :
      Turn found (some caller) none [.begun caller, .ended caller] none
  | enter (caller : Caller) (snapshot : Snapshot) (complete : found = .ok (some snapshot)) :
      Turn found (some caller) none [.begun caller, .done (.write snapshot)]
        (some ⟨caller, snapshot, .writing⟩)
  | refuse (caller : Caller) (snapshot : Snapshot) :
      Turn found none (some ⟨caller, snapshot, .writing⟩)
        [.heard .notWritten, .ended caller] none
  | publish (caller : Caller) (snapshot : Snapshot) :
      Turn found none (some ⟨caller, snapshot, .writing⟩)
        [.heard .written, .done (.publish snapshot)] (some ⟨caller, snapshot, .publishing⟩)
  /-- A snapshot is handed on whether or not it could be published. -/
  | emit (caller : Caller) (snapshot : Snapshot) (outcome : Ticker.Event)
      (awaited : outcome ∈ Stage.publishing.outcomes) :
      Turn found none (some ⟨caller, snapshot, .publishing⟩)
        [.heard outcome, .done (.emit snapshot), .ended caller] none
  /-- Only the loop's tick is ever given up. -/
  | cancel (snapshot : Snapshot) (stage : Stage) :
      Turn found none (some ⟨.loop, snapshot, stage⟩) [.done .cancel, .ended .loop] none

namespace Ticker

/-! ### Effects that are no part of a tick -/

structure Effect.Quiet (effect : Effect) : Prop where
  drops : effect.drops = false
  answers : effect.answers = false
  felt : effect.felt = false

theorem stopped_quiet (stops : List Time) (cancelled : Bool) :
    ∀ effect ∈ stops.map fun _ => Effect.stopped cancelled, effect.Quiet := by
  intro effect member
  obtain ⟨_, _, rfl⟩ := List.mem_map.mp member
  exact ⟨rfl, rfl, rfl⟩

/-- Quiet effects at the end of a turn leave nothing of a tick to be seen. -/
theorem trail_signs_append_quiet (ticker after : Ticker Time) (event : Event)
    (effects : List Effect) {more : List Effect} (quiet : ∀ effect ∈ more, effect.Quiet) :
    trail (ticker.signs event (after, effects ++ more)) =
      trail (ticker.signs event (after, effects)) := by
  have noDrop : more.any Effect.drops = false := by
    rw [List.any_eq_false]
    intro effect member
    simp [(quiet effect member).drops]
  have noAnswer : more.any Effect.answers = false := by
    rw [List.any_eq_false]
    intro effect member
    simp [(quiet effect member).answers]
  have unseen : trail (more.map Sign.done) = [] := by
    rw [trail, List.filter_eq_nil_iff]
    intro sign member
    obtain ⟨effect, found, rfl⟩ := List.mem_map.mp member
    simp [Sign.ofTick, (quiet effect found).felt]
  simp only [signs, entrance, exits, List.any_append, noDrop, noAnswer, Bool.or_false,
    List.map_append, trail_append, unseen, List.append_nil]

/-! ### Turns that keep a ticker coherent -/

variable {ticker : Ticker Time} {found : Except Feed.TakeError (Option Snapshot)}

theorem hearing_of_idle (idle : ticker.current = none) (event : Event) :
    ticker.hearing event = [] := by
  simp only [hearing, idle]

theorem hearing_of_running {tick : Tick} (running : ticker.current = some tick) (event : Event) :
    ticker.hearing event = if event ∈ tick.stage.outcomes then [.heard event] else [] := by
  simp only [hearing, running]

/-- Only what can come of a write or a publishing is awaited. -/
theorem hearing_eq_nil {event : Event}
    (other : event ∉ Stage.writing.outcomes ++ Stage.publishing.outcomes) :
    ticker.hearing event = [] := by
  cases running : ticker.current with
  | none => exact hearing_of_idle running event
  | some tick =>
    rw [hearing_of_running running, if_neg]
    intro awaited
    apply other
    cases stage : tick.stage with
    | writing => exact List.mem_append_left _ (stage ▸ awaited)
    | publishing => exact List.mem_append_right _ (stage ▸ awaited)

/-- The loop is in a tick exactly while the tick in progress is the loop's. -/
def Coherent (ticker : Ticker Time) : Prop :=
  ticker.loop.inTick = ticker.current.any fun tick => tick.caller = .loop

structure Proper (ticker : Ticker Time) (found : Except Feed.TakeError (Option Snapshot))
    (event : Event) (turn : Ticker Time × List Effect) : Prop where
  coherent : turn.1.Coherent
  kind : Turn found (ticker.asks event) ticker.current (trail (ticker.signs event turn))
    turn.1.current

theorem proper_still {event : Event} (unasked : ticker.asks event = none)
    (unheard : ticker.hearing event = []) (coherent : ticker.Coherent) {effects : List Effect} (quiet : ∀ effect ∈ effects, effect.Quiet)
    {after : Ticker Time} (sameCurrent : after.current = ticker.current)
    (sameTick : after.loop.inTick = ticker.loop.inTick) :
    ticker.Proper found event (after, effects) where
  coherent := by rw [Coherent, sameTick, sameCurrent]; exact coherent
  kind := by
    have seen := trail_signs_append_quiet ticker after event [] quiet
    rw [List.nil_append] at seen
    rw [seen, sameCurrent, unasked]
    have none : trail (ticker.signs event (after, [])) = [] := by
      simp [signs, unheard, entrance, exits, unasked, sameTick]
    rw [none]
    exact .still _

theorem proper_same {event : Event} (unasked : ticker.asks event = none)
    (unheard : ticker.hearing event = []) (coherent : ticker.Coherent) :
    ticker.Proper found event (ticker, []) :=
  proper_still unasked unheard coherent (List.forall_mem_nil _) rfl rfl

theorem loop_of_in_tick (inTick : ticker.loop.inTick = true) :
    ∃ deadline, ticker.loop = .ticking deadline := by
  cases state : ticker.loop with
  | ticking deadline => exact ⟨deadline, rfl⟩
  | absent | waiting _ _ | failed _ => simp [state, Loop.inTick] at inTick

theorem cancel_proper {event : Event} (unasked : ticker.asks event = none)
    (unheard : ticker.hearing event = []) (coherent : ticker.Coherent) (inTick : ticker.loop.inTick = true) (stops : List Time) :
    ticker.Proper found event (ticker.cancel stops) where
  coherent := rfl
  kind := by
    rw [Coherent, inTick] at coherent
    cases running : ticker.current with
    | none => simp [running] at coherent
    | some tick =>
      obtain ⟨caller, snapshot, stage⟩ := tick
      have byLoop : caller = .loop := by simpa [running] using coherent
      subst byLoop
      have gone : (ticker.cancel stops).1.loop.inTick = false := rfl
      have seen : trail (ticker.signs event (ticker.cancel stops)) =
          [.done .cancel, .ended .loop] := by
        refine (trail_signs_append_quiet ticker (ticker.cancel stops).1 event
          [.cancel, .count .tickLatency] (stopped_quiet stops true)).trans ?_
        simp [signs, unheard, entrance, exits, unasked, inTick, gone, Effect.drops, Effect.answers,
          Sign.ofTick, Effect.felt]
      rw [seen, unasked]
      exact .cancel snapshot stage

/-! ### The end of a tick -/

variable [Timeline Time]

theorem resume_quiet (ticker : Ticker Time) (now deadline : Time) :
    ∀ effect ∈ (ticker.resume now deadline).2, effect.Quiet := by
  intro effect member
  unfold resume at member
  split at member
  · simp at member
  · obtain ⟨_, _, rfl⟩ := List.mem_map.mp member
    exact ⟨rfl, rfl, rfl⟩
  · simp at member
  · exact stopped_quiet _ _ effect member

theorem resume_not_in_tick (ticker : Ticker Time) (now deadline : Time) :
    (ticker.resume now deadline).1.loop.inTick = false := by
  unfold resume
  split <;> rfl

theorem resume_current (ticker : Ticker Time) (now deadline : Time) :
    (ticker.resume now deadline).1.current = ticker.current := by
  unfold resume
  split <;> rfl

theorem conclude_loop {deadline : Time} (inside : ticker.loop = .ticking deadline) (now : Time)
    (result : Option Snapshot) : ticker.conclude now .loop result = ticker.resume now deadline := by
  simp only [conclude, inside]

/-- Whatever is done at the end of a tick, the tick in progress ends, with its own caller. -/
theorem finish_seen {event : Event} (unasked : ticker.asks event = none)
    (coherent : ticker.Coherent) {tick : Tick} (running : ticker.current = some tick) (now : Time)
    (result : Option Snapshot) {effects : List Effect}
    (undropped : effects.any Effect.drops = false)
    (unanswered : effects.any Effect.answers = false) :
    (ticker.finish now tick result effects).1.Coherent ∧
      (ticker.finish now tick result effects).1.current = none ∧
      trail (ticker.signs event (ticker.finish now tick result effects)) =
        trail (ticker.hearing event) ++ trail (effects.map .done) ++ [.ended tick.caller] := by
  unfold Coherent at coherent ⊢
  rw [running] at coherent
  obtain ⟨caller, snapshot, stage⟩ := tick
  cases caller with
  | direct =>
    replace coherent : ticker.loop.inTick = false := by simpa using coherent
    refine ⟨coherent, rfl, ?_⟩
    simp [finish, conclude, signs, entrance, exits, unasked, undropped, coherent, Effect.drops,
      Effect.answers, trail, Sign.ofTick, Effect.felt]
  | loop =>
    replace coherent : ticker.loop.inTick = true := by simpa using coherent
    obtain ⟨deadline, inside⟩ := loop_of_in_tick coherent
    have ended :
        ({ ticker with current := none } : Ticker Time).conclude now .loop result =
          ({ ticker with current := none } : Ticker Time).resume now deadline :=
      conclude_loop (by exact inside) now result
    simp only [finish, ended]
    rw [trail_signs_append_quiet _ _ _ _ (resume_quiet _ now deadline)]
    refine ⟨?_, resume_current .., ?_⟩
    · simp [resume_not_in_tick, resume_current]
    · simp [signs, entrance, exits, unasked, undropped, unanswered, coherent,
        resume_not_in_tick, trail, Sign.ofTick]

theorem finish_proper {event : Event} (unasked : ticker.asks event = none)
    (coherent : ticker.Coherent) {tick : Tick} (running : ticker.current = some tick) (now : Time)
    (result : Option Snapshot) {effects : List Effect}
    (undropped : effects.any Effect.drops = false)
    (unanswered : effects.any Effect.answers = false)
    (kind : Turn found none (some tick)
      (trail (ticker.hearing event) ++ trail (effects.map .done) ++ [.ended tick.caller]) none) :
    ticker.Proper found event (ticker.finish now tick result effects) := by
  obtain ⟨after, ended, shown⟩ :=
    finish_seen unasked coherent running now result undropped unanswered
  refine ⟨after, ?_⟩
  rw [shown, ended, running, unasked]
  exact kind

/-! ### The beginning of a tick -/

/-- While a tick is in progress, one that is asked for is dropped: nothing changes but that the
caller goes on. -/
theorem begin_busy {tick : Tick} (running : ticker.current = some tick) (now : Time)
    (caller : Caller) (taken : Except Feed.TakeError (Option Snapshot)) :
    ticker.begin now caller taken =
      ((ticker.conclude now caller none).1,
        .count (.tick .overlap) :: (ticker.conclude now caller none).2) := by
  simp only [begin, running]

theorem begin_incomplete (idle : ticker.current = none) (now : Time) (caller : Caller) :
    ticker.begin now caller (.ok none) =
      ((ticker.conclude now caller none).1,
        .count (.tick .incomplete) :: (ticker.conclude now caller none).2) := by
  simp only [begin, idle]

theorem begin_complete (idle : ticker.current = none) (now : Time) (caller : Caller)
    (snapshot : Snapshot) :
    ticker.begin now caller (.ok (some snapshot)) =
      ({ ticker with current := some ⟨caller, snapshot, .writing⟩ }, [.write snapshot]) := by
  simp only [begin, idle]

theorem tick_proper (coherent : ticker.Coherent) (now : Time) :
    ticker.Proper found .tick (ticker.begin now .direct found) := by
  have unheard : ticker.hearing .tick = [] := hearing_eq_nil (by decide)
  cases running : ticker.current with
  | some tick =>
    rw [begin_busy running]
    refine ⟨coherent, ?_⟩
    simpa [conclude, running, signs, unheard, entrance, exits, asks, Effect.drops, Sign.ofTick, Effect.felt]
      using Turn.drop .direct tick
  | none =>
    have outside : ticker.loop.inTick = false := by simpa [Coherent, running] using coherent
    cases found with
    | error error =>
      refine ⟨by simpa [begin, running] using coherent, ?_⟩
      simpa [begin, running, signs, unheard, entrance, exits, asks, outside, Effect.drops, Effect.answers,
        Sign.ofTick, Effect.felt] using Turn.pass .direct (by simp)
    | ok complete =>
      cases complete with
      | none =>
        rw [begin_incomplete running]
        refine ⟨coherent, ?_⟩
        simpa [conclude, running, signs, unheard, entrance, exits, asks, outside, Effect.drops,
          Effect.answers, Sign.ofTick, Effect.felt] using Turn.pass .direct (by simp)
      | some snapshot =>
        rw [begin_complete running]
        refine ⟨by simpa [running, Coherent] using coherent, ?_⟩
        simpa [running, signs, unheard, entrance, exits, asks, outside, Effect.drops, Effect.answers,
          Sign.ofTick, Effect.felt] using Turn.enter .direct snapshot rfl

theorem loop_begin_proper (coherent : ticker.Coherent) {deadline wakeAt : Time}
    (asleep : ticker.loop = .waiting deadline wakeAt) (entering : Ticker Time)
    (sameCurrent : entering.current = ticker.current) (inside : entering.loop = .ticking deadline)
    (now : Time) : ticker.Proper found .wake (entering.begin now .loop found) := by
  have asked : ticker.asks .wake = some .loop := by simp only [asks, asleep]
  have unheard : ticker.hearing .wake = [] := hearing_eq_nil (by decide)
  have notLoop : (entering.current.any fun tick => tick.caller = .loop) = false := by
    rw [sameCurrent, ← coherent, asleep]
    rfl
  have quiet := entering.resume_quiet now deadline
  have resumed : (entering.resume now deadline).1.Coherent := by
    rw [Coherent, resume_not_in_tick, resume_current, notLoop]
  cases running : entering.current with
  | some tick =>
    rw [begin_busy running, conclude_loop inside]
    refine ⟨resumed, ?_⟩
    rw [← List.singleton_append, trail_signs_append_quiet _ _ _ _ quiet, resume_current, asked,
      ← sameCurrent, running]
    simpa [signs, unheard, entrance, exits, asked, Effect.drops, Sign.ofTick, Effect.felt]
      using Turn.drop .loop tick
  | none =>
    have idle : ticker.current = none := sameCurrent.symm.trans running
    cases found with
    | error error =>
      simp only [begin, running]
      refine ⟨by simp [Coherent, Loop.inTick], ?_⟩
      simpa [idle, signs, unheard, entrance, exits, asked, Loop.inTick, Sign.ofTick]
        using Turn.pass .loop (by simp)
    | ok complete =>
      cases complete with
      | none =>
        rw [begin_incomplete running, conclude_loop inside]
        refine ⟨resumed, ?_⟩
        rw [← List.singleton_append, trail_signs_append_quiet _ _ _ _ quiet, resume_current]
        simpa [idle, running, signs, unheard, entrance, exits, asked, resume_not_in_tick, Effect.drops,
          Effect.answers, Sign.ofTick, Effect.felt] using Turn.pass .loop (by simp)
      | some snapshot =>
        rw [begin_complete running]
        refine ⟨by simp [Coherent, Loop.inTick, inside], ?_⟩
        simpa [idle, signs, unheard, entrance, exits, asked, Loop.inTick, inside, Effect.drops,
          Effect.answers, Sign.ofTick, Effect.felt] using Turn.enter .loop snapshot rfl

/-! ### One event -/

theorem start_proper (coherent : ticker.Coherent) (now : Time) :
    ticker.Proper found .start (ticker.step now found .start) := by
  have unheard : ticker.hearing .start = [] := hearing_eq_nil (by decide)
  cases state : ticker.loop with
  | absent =>
    simp only [step, state]
    exact proper_still rfl unheard coherent (List.forall_mem_nil _) rfl (by rw [state]; rfl)
  | waiting _ _ | ticking _ | failed _ =>
    simp only [step, state]
    exact proper_same rfl unheard coherent

theorem stop_proper (coherent : ticker.Coherent) (now : Time) :
    ticker.Proper found .stop (ticker.step now found .stop) := by
  have unheard : ticker.hearing .stop = [] := hearing_eq_nil (by decide)
  have told (effect : Effect) (quiet : effect.Quiet) : ∀ other ∈ [effect], other.Quiet := by
    simpa using quiet
  cases state : ticker.loop with
  | absent =>
    simp only [step, state]
    exact proper_still rfl unheard coherent (told _ ⟨rfl, rfl, rfl⟩) rfl rfl
  | waiting _ _ | failed _ =>
    simp only [step, state]
    exact proper_still rfl unheard coherent (told _ ⟨rfl, rfl, rfl⟩) rfl (by rw [state]; rfl)
  | ticking deadline =>
    simp only [step, state]
    split
    · exact proper_still rfl unheard coherent (List.forall_mem_nil _) rfl (by rw [state])
    · exact cancel_proper rfl unheard coherent (by rw [state]; rfl) _

theorem wake_proper (coherent : ticker.Coherent) (now : Time) :
    ticker.Proper found .wake (ticker.step now found .wake) := by
  cases state : ticker.loop with
  | waiting deadline wakeAt =>
    simp only [step, state]
    exact loop_begin_proper coherent state { ticker with loop := .ticking deadline } rfl rfl now
  | absent | ticking _ | failed _ =>
    simp only [step, state]
    exact proper_same (by simp only [asks, state]) (hearing_eq_nil (by decide)) coherent

theorem written_proper (coherent : ticker.Coherent) (now : Time) :
    ticker.Proper found .written (ticker.step now found .written) := by
  cases running : ticker.current with
  | none =>
    simp only [step, running]
    exact proper_same rfl (hearing_of_idle running _) coherent
  | some tick =>
    obtain ⟨caller, snapshot, stage⟩ := tick
    cases stage with
    | writing =>
      have heard : ticker.hearing .written = [.heard .written] := hearing_of_running running _
      simp only [step, running]
      refine ⟨by simpa [Coherent, running] using coherent, ?_⟩
      simpa [running, signs, heard, entrance, exits, asks, Effect.drops, Effect.answers,
        Sign.ofTick, Effect.felt] using Turn.publish caller snapshot
    | publishing =>
      simp only [step, running]
      exact proper_same rfl (hearing_of_running running _) coherent

theorem not_written_proper (coherent : ticker.Coherent) (now : Time) :
    ticker.Proper found .notWritten (ticker.step now found .notWritten) := by
  cases running : ticker.current with
  | none =>
    simp only [step, running]
    exact proper_same rfl (hearing_of_idle running _) coherent
  | some tick =>
    obtain ⟨caller, snapshot, stage⟩ := tick
    simp only [step, running]
    cases stage with
    | writing =>
      refine finish_proper rfl coherent running now none rfl rfl ?_
      rw [hearing_of_running running]
      exact .refuse caller snapshot
    | publishing => exact proper_same rfl (hearing_of_running running _) coherent

theorem publishing_over_proper (coherent : ticker.Coherent) (now : Time) {event : Event}
    (ending : event = .published ∨ event = .notPublished) :
    ticker.Proper found event (ticker.step now found event) := by
  cases running : ticker.current with
  | none =>
    have unheard := hearing_of_idle running event
    rcases ending with rfl | rfl <;>
    · simp only [step, running]
      exact proper_same rfl unheard coherent
  | some tick =>
    obtain ⟨caller, snapshot, stage⟩ := tick
    have heard := hearing_of_running running event
    cases stage with
    | writing =>
      rcases ending with rfl | rfl <;>
      · simp only [step, running]
        exact proper_same rfl heard coherent
    | publishing =>
      rcases ending with rfl | rfl <;>
      · simp only [step, running]
        refine finish_proper rfl coherent running now _ rfl rfl ?_
        rw [heard]
        exact .emit caller snapshot _ (by decide)

theorem grace_over_proper (coherent : ticker.Coherent) (now : Time) :
    ticker.Proper found .graceOver (ticker.step now found .graceOver) := by
  have unheard : ticker.hearing .graceOver = [] := hearing_eq_nil (by decide)
  cases state : ticker.loop with
  | ticking deadline =>
    cases patience : ticker.stops with
    | nil =>
      simp only [step, state, patience]
      exact proper_same rfl unheard coherent
    | cons stop stops =>
      simp only [step, state, patience]
      exact cancel_proper rfl unheard coherent (by rw [state]; rfl) _
  | absent | waiting _ _ | failed _ =>
    simp only [step, state]
    exact proper_same rfl unheard coherent

theorem step_proper (coherent : ticker.Coherent) (now : Time) (event : Event) :
    ticker.Proper found event (ticker.step now found event) := by
  cases event with
  | start => exact start_proper coherent now
  | stop => exact stop_proper coherent now
  | wake => exact wake_proper coherent now
  | tick => exact tick_proper coherent now
  | written => exact written_proper coherent now
  | notWritten => exact not_written_proper coherent now
  | published => exact publishing_over_proper coherent now (.inl rfl)
  | notPublished => exact publishing_over_proper coherent now (.inr rfl)
  | graceOver => exact grace_over_proper coherent now

/-! ### Giving up -/

theorem conclude_uncancelled (ticker : Ticker Time) (now : Time) (caller : Caller)
    (result : Option Snapshot) : .cancel ∉ (ticker.conclude now caller result).2 := by
  intro member
  unfold conclude at member
  split at member
  · simp at member
  · cases (resume_quiet _ _ _ _ member).felt
  · simp at member

theorem begin_uncancelled (ticker : Ticker Time) (now : Time) (caller : Caller) :
    .cancel ∉ (ticker.begin now caller found).2 := by
  cases running : ticker.current with
  | some tick => simp [begin_busy running, conclude_uncancelled]
  | none =>
    cases found with
    | error error => cases caller <;> simp [begin, running]
    | ok complete =>
      cases complete with
      | none => simp [begin_incomplete running, conclude_uncancelled]
      | some snapshot => simp [begin_complete running]

theorem finish_uncancelled (ticker : Ticker Time) (now : Time) (tick : Tick)
    (result : Option Snapshot) {effects : List Effect} (uncancelled : .cancel ∉ effects) :
    .cancel ∉ (ticker.finish now tick result effects).2 := by
  intro member
  rcases List.mem_append.mp member with early | late
  · exact uncancelled early
  · exact conclude_uncancelled _ _ _ _ late

/-- A tick is given up for a stop, and only for a stop. -/
theorem cancel_of_step {now : Time} {event : Event}
    (given : .cancel ∈ (ticker.step now found event).2) :
    ∃ stops, stops ≠ [] ∧ ticker.step now found event = ticker.cancel stops := by
  cases event with
  | start =>
    simp only [step] at given
    split at given <;> simp at given
  | stop =>
    cases state : ticker.loop with
    | ticking deadline =>
      simp only [step, state] at given ⊢
      split at given
      · simp at given
      · rename_i impatient
        exact ⟨ticker.stops ++ [now], by simp, if_neg impatient⟩
    | absent | waiting _ _ | failed _ => simp [step, state] at given
  | wake =>
    simp only [step] at given
    split at given
    · exact absurd given (begin_uncancelled _ _ _)
    · simp at given
  | tick => exact absurd given (begin_uncancelled ticker now .direct)
  | written =>
    simp only [step] at given
    split at given <;> simp at given
  | notWritten | published | notPublished =>
    simp only [step] at given
    split at given
    · split at given
      · exact absurd given (finish_uncancelled _ _ _ _ (by simp))
      · simp at given
    · simp at given
  | graceOver =>
    simp only [step] at given ⊢
    split at given
    · exact ⟨_, List.cons_ne_nil _ _, rfl⟩
    · simp at given

end Ticker
end PriceBoard
