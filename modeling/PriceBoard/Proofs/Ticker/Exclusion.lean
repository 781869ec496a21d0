import PriceBoard.Proofs.Feed.Quotes
import PriceBoard.Proofs.Ticker.Turns

/-!
# Ticks one at a time

A session is a ticker with the quotes it takes from and everything that was to be seen of it. Updates,
ticks that are asked for, starts, stops and the outcomes of writes and publishings reach it in any
order and at any time. Whatever the order, what is seen of the ticks falls into blocks, one for each
tick that was not dropped, and no tick begins before the one before it has ended.
-/
namespace PriceBoard

open Feed (Quotes)

structure Session (Time : Type) where
  quotes : Quotes
  ticker : Ticker Time
  signs : List Sign

inductive Move (Time : Type) where
  | update (feed : String) (value : Float) (time : DateTime)
  /-- An event at a time, and what a wall clock shows then. -/
  | event (event : Ticker.Event) (now : Time) (clock : Except TimeError DateTime)

namespace Session

variable {Time : Type} [Timeline Time]

def opening (feeds : List String) (interval grace : Time) : Session Time :=
  ⟨Quotes.empty feeds, Ticker.make interval grace, []⟩

def turn (session : Session Time) (event : Ticker.Event) (now : Time)
    (clock : Except TimeError DateTime) : Ticker Time × List Ticker.Effect :=
  session.ticker.step now (session.quotes.take clock) event

def shown (session : Session Time) (event : Ticker.Event) (now : Time)
    (clock : Except TimeError DateTime) : List Sign :=
  session.ticker.signs event (session.turn event now clock)

def move (session : Session Time) : Move Time → Session Time
  | .update feed value time =>
    { session with quotes := (session.quotes.update feed value time).1 }
  | .event event now clock =>
    { session with
      ticker := (session.turn event now clock).1
      signs := session.signs ++ session.shown event now clock }

def run (session : Session Time) (moves : List (Move Time)) : Session Time :=
  moves.foldl move session

end Session

/-! ### Blocks -/

/-- What becomes of a tick that was not dropped. -/
inductive Fate where
  | nothing
  | refused (snapshot : Snapshot)
  | complete (snapshot : Snapshot) (published : Bool)
  | cancelled (snapshot : Snapshot) (stage : Stage)

def Stage.signs (snapshot : Snapshot) : Stage → List Sign
  | .writing => [.done (.write snapshot)]
  | .publishing => [.done (.write snapshot), .heard .written, .done (.publish snapshot)]

namespace Fate

def signs : Fate → List Sign
  | .nothing => []
  | .refused snapshot => Stage.writing.signs snapshot ++ [.heard .notWritten]
  | .complete snapshot published =>
    Stage.publishing.signs snapshot ++
      [.heard (if published then .published else .notPublished), .done (.emit snapshot)]
  | .cancelled snapshot stage => stage.signs snapshot ++ [.done .cancel]

def snapshot? : Fate → Option Snapshot
  | .nothing => none
  | .refused snapshot | .complete snapshot _ | .cancelled snapshot _ => some snapshot

end Fate

structure Block where
  caller : Caller
  fate : Fate

def Block.signs (block : Block) : List Sign :=
  .begun block.caller :: block.fate.signs ++ [.ended block.caller]

def Tick.signs (tick : Tick) : List Sign :=
  .begun tick.caller :: tick.stage.signs tick.snapshot

def Snapshot.Holds (snapshot : Snapshot) (feeds : List String) : Prop :=
  snapshot.values.map Prod.fst = feeds

/-- The snapshot of a block holds exactly the feeds, and only the loop's tick is given up. -/
structure Block.Fits (feeds : List String) (block : Block) : Prop where
  holds : ∀ snapshot ∈ block.fate.snapshot?, snapshot.Holds feeds
  byLoop : ∀ snapshot stage, block.fate = .cancelled snapshot stage → block.caller = .loop

def pending (current : Option Tick) : List Sign := current.elim [] Tick.signs

section Turns

variable {found : Except Feed.TakeError (Option Snapshot)} {asked : Option Caller}
  {before after : Option Tick} {signs : List Sign} {feeds : List String}

theorem Turn.holds (turn : Turn found asked before signs after)
    (taken : ∀ snapshot, found = .ok (some snapshot) → snapshot.Holds feeds)
    (held : ∀ tick ∈ before, tick.snapshot.Holds feeds) :
    ∀ tick ∈ after, tick.snapshot.Holds feeds := by
  cases turn with
  | still | drop => exact held
  | pass | refuse | emit | cancel => exact fun _ member => by simp at member
  | enter caller snapshot complete =>
    intro tick member
    cases member
    exact taken snapshot complete
  | publish caller snapshot =>
    intro tick member
    cases member
    exact held ⟨caller, snapshot, .writing⟩ rfl

/-- A turn goes on with the tick in progress or closes it with a block. -/
theorem Turn.blocks (turn : Turn found asked before signs after)
    (held : ∀ tick ∈ before, tick.snapshot.Holds feeds) :
    ∃ blocks : List Block, (∀ block ∈ blocks, block.Fits feeds) ∧
      pending before ++ signs = blocks.flatMap Block.signs ++ pending after := by
  have one (block : Block) (fits : block.Fits feeds) : ∀ other ∈ [block], other.Fits feeds := by
    simpa using fits
  cases turn with
  | still | drop => exact ⟨[], by simp, by simp⟩
  | enter | publish => exact ⟨[], by simp, rfl⟩
  | pass caller =>
    exact ⟨[⟨caller, .nothing⟩], one _ ⟨nofun, nofun⟩, rfl⟩
  | refuse caller snapshot =>
    refine ⟨[⟨caller, .refused snapshot⟩], one _ ⟨?_, nofun⟩, rfl⟩
    simpa [Fate.snapshot?] using held
  | emit caller snapshot outcome awaited =>
    refine ⟨[⟨caller, .complete snapshot (outcome = .published)⟩], one _ ⟨?_, nofun⟩, ?_⟩
    · simpa [Fate.snapshot?] using held
    · simp only [Stage.outcomes, List.mem_cons, List.not_mem_nil, or_false] at awaited
      rcases awaited with rfl | rfl <;> rfl
  | cancel snapshot stage =>
    refine ⟨[⟨.loop, .cancelled snapshot stage⟩], one _ ⟨?_, fun _ _ _ => rfl⟩, ?_⟩
    · simpa [Fate.snapshot?] using held
    · cases stage <;> rfl

theorem Turn.of_drop {caller : Caller} {tick : Tick}
    (turn : Turn found (some caller) (some tick) signs after) : signs = [] ∧ after = some tick := by
  cases turn
  exact ⟨rfl, rfl⟩

theorem Turn.of_enter {caller : Caller} {snapshot : Snapshot}
    (turn : Turn found (some caller) none signs after) (complete : found = .ok (some snapshot)) :
    signs = [.begun caller, .done (.write snapshot)] := by
  cases turn with
  | pass _ lacking => exact absurd complete (lacking snapshot)
  | enter _ other same =>
    cases complete.symm.trans same
    rfl

theorem Turn.of_pass {caller : Caller} (turn : Turn found (some caller) none signs after)
    (lacking : ∀ snapshot, found ≠ .ok (some snapshot)) :
    signs = [.begun caller, .ended caller] := by
  cases turn with
  | pass => rfl
  | enter _ snapshot complete => exact absurd complete (lacking snapshot)

theorem Turn.of_refusal {caller : Caller} {snapshot : Snapshot} {rest : List Sign}
    (turn : Turn found asked (some ⟨caller, snapshot, .writing⟩) (.heard .notWritten :: rest)
      after) : rest = [.ended caller] ∧ after = none := by
  cases turn
  exact ⟨rfl, rfl⟩

theorem Turn.of_written {caller : Caller} {snapshot : Snapshot} {rest : List Sign}
    (turn : Turn found asked (some ⟨caller, snapshot, .writing⟩) (.heard .written :: rest) after) :
    rest = [.done (.publish snapshot)] ∧ after = some ⟨caller, snapshot, .publishing⟩ := by
  cases turn
  exact ⟨rfl, rfl⟩

theorem Turn.of_publishing {caller : Caller} {snapshot : Snapshot} {outcome : Ticker.Event}
    {rest : List Sign}
    (turn : Turn found asked (some ⟨caller, snapshot, .publishing⟩) (.heard outcome :: rest)
      after) : rest = [.done (.emit snapshot), .ended caller] ∧ after = none := by
  cases turn
  exact ⟨rfl, rfl⟩

end Turns

/-! ### How many ticks have begun and not ended -/

def Sign.enters : Sign → Bool
  | .begun _ => true
  | _ => false

def Sign.leaves : Sign → Bool
  | .ended _ => true
  | _ => false

def entrances (signs : List Sign) : Nat := signs.countP Sign.enters

def leavings (signs : List Sign) : Nat := signs.countP Sign.leaves

def inside (current : Option Tick) : Nat := if current.isSome then 1 else 0

theorem entrances_append (left right : List Sign) :
    entrances (left ++ right) = entrances left + entrances right :=
  List.countP_append

theorem leavings_append (left right : List Sign) :
    leavings (left ++ right) = leavings left + leavings right :=
  List.countP_append

theorem entrances_trail (signs : List Sign) : entrances (trail signs) = entrances signs := by
  rw [entrances, trail, List.countP_filter, entrances]
  apply List.countP_congr
  intro sign _
  cases sign <;> simp [Sign.enters, Sign.ofTick]

theorem leavings_trail (signs : List Sign) : leavings (trail signs) = leavings signs := by
  rw [leavings, trail, List.countP_filter, leavings]
  apply List.countP_congr
  intro sign _
  cases sign <;> simp [Sign.leaves, Sign.ofTick]

section Turns

variable {found : Except Feed.TakeError (Option Snapshot)} {asked : Option Caller}
  {before after : Option Tick} {signs : List Sign}

theorem Turn.balance (turn : Turn found asked before signs after) :
    inside before + entrances signs = leavings signs + inside after := by
  cases turn with
  | still | drop => exact Nat.add_comm ..
  | pass | enter | refuse | publish | emit | cancel => rfl

/-- A tick begins only where none is in progress, and one turn begins no more than one. -/
theorem Turn.enters_once (turn : Turn found asked before signs after) :
    inside before + entrances signs ≤ 1 := by
  cases turn with
  | still => cases before <;> simp [inside, entrances]
  | drop | pass | enter | refuse | publish | emit | cancel =>
    simp [inside, entrances, List.countP_cons, Sign.enters]

end Turns

/-! ### Runs -/

namespace Session

variable {Time : Type} {feeds : List String} {session : Session Time}

structure Orderly (feeds : List String) (session : Session Time) : Prop where
  configured : session.quotes.feeds = feeds
  coherent : session.ticker.Coherent
  holds : ∀ tick ∈ session.ticker.current, tick.snapshot.Holds feeds
  blocks : ∃ blocks : List Block, (∀ block ∈ blocks, block.Fits feeds) ∧
    trail session.signs = blocks.flatMap Block.signs ++ pending session.ticker.current
  balance : entrances session.signs = leavings session.signs + inside session.ticker.current
  exclusive : ∀ earlier, earlier <+: session.signs → entrances earlier ≤ leavings earlier + 1

theorem opening_orderly (feeds : List String) (interval grace : Time) :
    Orderly feeds (opening feeds interval grace) where
  configured := rfl
  coherent := rfl
  holds := nofun
  blocks := ⟨[], nofun, rfl⟩
  balance := rfl
  exclusive earlier beginning := by
    rw [List.prefix_nil.mp beginning]
    exact Nat.zero_le _

theorem taken_holds (orderly : Orderly feeds session) {clock : Except TimeError DateTime}
    (snapshot : Snapshot) (found : session.quotes.take clock = .ok (some snapshot)) :
    snapshot.Holds feeds :=
  (Feed.names_take found).trans orderly.configured

theorem tick_of_asks {event : Ticker.Event} (asked : session.ticker.asks event = some .direct) :
    event = .tick := by
  cases event with
  | tick => rfl
  | wake =>
    simp only [Ticker.asks] at asked
    split at asked <;> cases asked
  | start | stop | written | notWritten | published | notPublished | graceOver => cases asked

theorem outside_of_asks {event : Ticker.Event} (asked : session.ticker.asks event = some .loop) :
    session.ticker.loop.inTick = false := by
  cases event with
  | wake =>
    simp only [Ticker.asks] at asked
    split at asked
    · rename_i asleep
      rw [asleep]
      rfl
    · cases asked
  | start | stop | tick | written | notWritten | published | notPublished | graceOver => cases asked

variable [Timeline Time]

theorem turn_kind (orderly : Orderly feeds session) (event : Ticker.Event) (now : Time)
    (clock : Except TimeError DateTime) :
    Turn (session.quotes.take clock) (session.ticker.asks event) session.ticker.current
      (trail (session.shown event now clock)) (session.turn event now clock).1.current :=
  (Ticker.step_proper orderly.coherent now event).kind

theorem event_orderly (orderly : Orderly feeds session) (event : Ticker.Event) (now : Time)
    (clock : Except TimeError DateTime) :
    Orderly feeds (session.move (.event event now clock)) where
  configured := orderly.configured
  coherent := (Ticker.step_proper orderly.coherent now event).coherent
  holds := (turn_kind orderly event now clock).holds (taken_holds orderly) orderly.holds
  blocks := by
    obtain ⟨blocks, fits, seen⟩ := orderly.blocks
    obtain ⟨more, moreFits, added⟩ :=
      (turn_kind orderly event now clock).blocks orderly.holds
    refine ⟨blocks ++ more, ?_, ?_⟩
    · intro block member
      exact (List.mem_append.mp member).elim (fits block) (moreFits block)
    · calc trail (session.signs ++ session.shown event now clock)
          = blocks.flatMap Block.signs ++
              (pending session.ticker.current ++ trail (session.shown event now clock)) := by
            rw [trail_append, seen, List.append_assoc]
        _ = (blocks ++ more).flatMap Block.signs ++
              pending (session.turn event now clock).1.current := by
            rw [added, List.flatMap_append, List.append_assoc]
  balance := by
    have before := orderly.balance
    have turn := (turn_kind orderly event now clock).balance
    rw [entrances_trail, leavings_trail] at turn
    simp only [move, entrances_append, leavings_append]
    omega
  exclusive earlier beginning := by
    obtain ⟨later, whole⟩ := beginning
    -- A beginning ends in what had been seen before this turn or within the turn.
    rcases List.append_eq_append_iff.mp whole with ⟨rest, within, _⟩ | ⟨added, rfl, shown⟩
    · exact orderly.exclusive earlier ⟨rest, within.symm⟩
    · have before := orderly.balance
      have start : entrances added ≤ entrances (session.shown event now clock) := by
        rw [shown, entrances_append]
        exact Nat.le_add_right ..
      have turn := (turn_kind orderly event now clock).enters_once
      rw [entrances_trail] at turn
      simp only [entrances_append, leavings_append]
      omega

theorem move_orderly (orderly : Orderly feeds session) (move : Move Time) :
    Orderly feeds (session.move move) := by
  cases move with
  | update feed value time =>
    exact { orderly with configured := (Feed.feeds_update ..).trans orderly.configured }
  | event event now clock => exact event_orderly orderly event now clock

theorem run_orderly (orderly : Orderly feeds session) (moves : List (Move Time)) :
    Orderly feeds (session.run moves) := by
  induction moves generalizing session with
  | nil => exact orderly
  | cons move moves induction => exact induction (move_orderly orderly move)

/-! ### Ticks that are asked for -/

/-- A tick is dropped: nothing is felt of it, the tick in progress goes on, and its caller goes on
with nothing. -/
structure Drops (session : Session Time) (event : Ticker.Event) (now : Time)
    (clock : Except TimeError DateTime) (caller : Caller) : Prop where
  unfelt : trail (session.shown event now clock) = []
  current : (session.turn event now clock).1.current = session.ticker.current
  direct : caller = .direct →
    session.turn event now clock = (session.ticker, [.count (.tick .overlap), .returned none])
  loop : caller = .loop → (session.turn event now clock).1.loop.inTick = false

/-- A tick begins: it writes what can be taken, and ends at once where nothing can. -/
structure Admits (session : Session Time) (event : Ticker.Event) (now : Time)
    (clock : Except TimeError DateTime) (caller : Caller) : Prop where
  complete : ∀ snapshot, session.quotes.take clock = .ok (some snapshot) →
    trail (session.shown event now clock) = [.begun caller, .done (.write snapshot)]
  lacking : (∀ snapshot, session.quotes.take clock ≠ .ok (some snapshot)) →
    trail (session.shown event now clock) = [.begun caller, .ended caller]

theorem drops_of_running (orderly : Orderly feeds session) {event : Ticker.Event} {caller : Caller}
    (asked : session.ticker.asks event = some caller) {tick : Tick}
    (running : session.ticker.current = some tick) (now : Time)
    (clock : Except TimeError DateTime) : session.Drops event now clock caller := by
  have kind := turn_kind orderly event now clock
  have coherent : (session.turn event now clock).1.Coherent :=
    (Ticker.step_proper orderly.coherent now event).coherent
  rw [asked, running] at kind
  obtain ⟨unfelt, sameTick⟩ := kind.of_drop
  have current := sameTick.trans running.symm
  refine ⟨unfelt, current, ?_, ?_⟩
  · rintro rfl
    rw [tick_of_asks asked]
    exact Ticker.begin_busy running now .direct _
  · rintro rfl
    rw [coherent, current, ← orderly.coherent]
    exact outside_of_asks asked

theorem admits_of_idle (orderly : Orderly feeds session) {event : Ticker.Event} {caller : Caller}
    (asked : session.ticker.asks event = some caller) (idle : session.ticker.current = none)
    (now : Time) (clock : Except TimeError DateTime) : session.Admits event now clock caller := by
  have kind := turn_kind orderly event now clock
  rw [asked, idle] at kind
  exact ⟨fun _ complete => kind.of_enter complete, kind.of_pass⟩

/-- While a tick has begun and not ended, every other one is dropped; else it begins. -/
theorem asked_tick (orderly : Orderly feeds session) {event : Ticker.Event} {caller : Caller}
    (asked : session.ticker.asks event = some caller) (now : Time)
    (clock : Except TimeError DateTime) :
    if leavings session.signs < entrances session.signs then
      session.Drops event now clock caller
    else session.Admits event now clock caller := by
  have balance := orderly.balance
  cases running : session.ticker.current with
  | some tick =>
    rw [running] at balance
    rw [if_pos (by simp [inside] at balance; omega)]
    exact drops_of_running orderly asked running now clock
  | none =>
    rw [running] at balance
    rw [if_neg (by simp [inside] at balance; omega)]
    exact admits_of_idle orderly asked running now clock

/-! ### Ticks in progress -/

def LeadsTo (session : Session Time) (event : Ticker.Event) (now : Time)
    (clock : Except TimeError DateTime) (signs : List Sign) (after : Option Tick) : Prop :=
  trail (session.shown event now clock) = signs ∧
    (session.turn event now clock).1.current = after

/-- Whatever comes of the write or of the publishing in progress, the tick goes on or ends with it. -/
structure Proceeds (session : Session Time) (tick : Tick) (now : Time)
    (clock : Except TimeError DateTime) : Prop where
  refused : tick.stage = .writing →
    session.LeadsTo .notWritten now clock [.heard .notWritten, .ended tick.caller] none
  written : tick.stage = .writing →
    session.LeadsTo .written now clock [.heard .written, .done (.publish tick.snapshot)]
      (some { tick with stage := .publishing })
  published : tick.stage = .publishing → ∀ outcome ∈ tick.stage.outcomes,
    session.LeadsTo outcome now clock
      [.heard outcome, .done (.emit tick.snapshot), .ended tick.caller] none

theorem shown_of_heard {event : Ticker.Event} {tick : Tick}
    (running : session.ticker.current = some tick) (awaited : event ∈ tick.stage.outcomes)
    (now : Time) (clock : Except TimeError DateTime) :
    ∃ rest, trail (session.shown event now clock) = .heard event :: rest := by
  have heard : session.ticker.hearing event = [.heard event] :=
    (Ticker.hearing_of_running running event).trans (if_pos awaited)
  simp only [shown, Ticker.signs, heard, List.cons_append, List.nil_append]
  exact ⟨_, rfl⟩

theorem proceeds_of_running (orderly : Orderly feeds session) {tick : Tick}
    (running : session.ticker.current = some tick) (now : Time)
    (clock : Except TimeError DateTime) : session.Proceeds tick now clock := by
  obtain ⟨caller, snapshot, stage⟩ := tick
  have leads {event : Ticker.Event} (awaited : event ∈ stage.outcomes) :
      ∃ rest, trail (session.shown event now clock) = .heard event :: rest ∧
        Turn (session.quotes.take clock) (session.ticker.asks event)
          (some ⟨caller, snapshot, stage⟩) (.heard event :: rest)
          (session.turn event now clock).1.current := by
    obtain ⟨rest, seen⟩ := shown_of_heard running awaited now clock
    exact ⟨rest, seen, seen ▸ running ▸ turn_kind orderly event now clock⟩
  constructor
  · rintro rfl
    obtain ⟨rest, seen, turn⟩ := @leads .notWritten (by decide)
    obtain ⟨rfl, after⟩ := turn.of_refusal
    exact ⟨seen, after⟩
  · rintro rfl
    obtain ⟨rest, seen, turn⟩ := @leads .written (by decide)
    obtain ⟨rfl, after⟩ := turn.of_written
    exact ⟨seen, after⟩
  · rintro rfl outcome awaited
    obtain ⟨rest, seen, turn⟩ := leads awaited
    obtain ⟨rfl, after⟩ := turn.of_publishing
    exact ⟨seen, after⟩

/-- A stop that gives up a tick leaves none behind, and a start after it makes a loop that asks for
ticks again. -/
theorem free_after_cancel (orderly : Orderly feeds session) {event : Ticker.Event} {now : Time}
    {clock : Except TimeError DateTime} (given : .cancel ∈ (session.turn event now clock).2)
    (later : Time) (laterClock : Except TimeError DateTime) :
    .stopped true ∈ (session.turn event now clock).2 ∧
      let started := (session.move (.event event now clock)).move (.event .start later laterClock)
      entrances started.signs = leavings started.signs ∧
        started.ticker.asks .wake = some .loop := by
  obtain ⟨stops, nonempty, cancelled⟩ := Ticker.cancel_of_step given
  have turned : session.turn event now clock = session.ticker.cancel stops := cancelled
  constructor
  · rw [turned]
    obtain ⟨stop, rest, rfl⟩ := List.exists_cons_of_ne_nil nonempty
    simp [Ticker.cancel]
  · intro started
    have halted : (session.move (.event event now clock)).ticker =
        (session.ticker.cancel stops).1 := congrArg Prod.fst turned
    have woken : started.ticker =
        { (session.ticker.cancel stops).1 with
          loop := Ticker.sleepUntil (later + session.ticker.interval) later } := by
      change (Ticker.step (session.move (.event event now clock)).ticker later _ .start).1 = _
      rw [halted]
      rfl
    have balance : entrances started.signs =
        leavings started.signs + inside started.ticker.current :=
      (move_orderly (move_orderly orderly (.event event now clock))
        (.event .start later laterClock)).balance
    rw [woken] at balance ⊢
    exact ⟨balance, rfl⟩

/-- Whatever reaches a session, and whenever: no more than one tick has begun and not ended; what is
seen of the ticks falls into blocks, each of a tick and one after the other, with what came of its
write and its publishing; a tick in progress goes on or ends with what comes of them; a tick is
dropped, unseen by all but its caller, exactly while another has not ended; and a stop that gives up a
tick keeps none from beginning later. -/
theorem ticks_exclude_each_other (feeds : List String) (interval grace : Time)
    (moves : List (Move Time)) :
    let session := (opening feeds interval grace).run moves
    (∀ earlier, earlier <+: session.signs → entrances earlier ≤ leavings earlier + 1) ∧
    (∃ blocks : List Block, (∀ block ∈ blocks, block.Fits feeds) ∧
      trail session.signs = blocks.flatMap Block.signs ++ pending session.ticker.current) ∧
    (∀ tick ∈ session.ticker.current,
      tick.snapshot.Holds feeds ∧ ∀ now clock, session.Proceeds tick now clock) ∧
    (∀ event now clock caller, session.ticker.asks event = some caller →
      if leavings session.signs < entrances session.signs then
        session.Drops event now clock caller
      else session.Admits event now clock caller) ∧
    ∀ event now clock later laterClock, .cancel ∈ (session.turn event now clock).2 →
      .stopped true ∈ (session.turn event now clock).2 ∧
        let started := (session.move (.event event now clock)).move (.event .start later laterClock)
        entrances started.signs = leavings started.signs ∧
          started.ticker.asks .wake = some .loop := by
  intro session
  have orderly : Orderly feeds session := run_orderly (opening_orderly feeds interval grace) moves
  refine ⟨orderly.exclusive, orderly.blocks, ?_, ?_, ?_⟩
  · exact fun tick running => ⟨orderly.holds tick running, proceeds_of_running orderly running⟩
  · exact fun event now clock caller asked => asked_tick orderly asked now clock
  · exact fun event now clock later laterClock given =>
      free_after_cancel orderly given later laterClock

def goldAndTin : Snapshot := ⟨⟨63840000400000000, by decide⟩, [("gold", 1.5), ("tin", 2.5)]⟩

/-- A tick that lacks a feed; a loop's tick whose write fails, with another tick dropped meanwhile; a
tick whose snapshot cannot be published; a loop's tick that a stop gives up; and a tick that writes. -/
def turmoil : List (Move Rat) :=
  let report (feed : String) (value : Float) : Move Rat := .update feed value goldAndTin.timestamp
  let event (event : Ticker.Event) (now : Rat) : Move Rat :=
    .event event now (.ok goldAndTin.timestamp)
  [report "gold" 1.5, event .tick 0, report "tin" 2.5,
    event .start 1, event .wake 6, event .tick 7, event .notWritten 8,
    event .tick 9, event .written 10, event .notPublished 11,
    event .wake 11, event .stop 12, event .graceOver 14, event .tick 15]

theorem ticks_exclude_each_other_in_turmoil :
    let session := (opening ["gold", "tin"] 5 2).run turmoil
    trail session.signs = [⟨.direct, .nothing⟩, ⟨.loop, .refused goldAndTin⟩,
      ⟨.direct, .complete goldAndTin false⟩,
      ⟨.loop, .cancelled goldAndTin .writing⟩].flatMap Block.signs ++
        Tick.signs ⟨.direct, goldAndTin, .writing⟩ ∧
    entrances session.signs = 5 ∧ leavings session.signs = 4 ∧
    session.Proceeds ⟨.direct, goldAndTin, .writing⟩ 16 (.error .noSuchYear) ∧
    session.Drops .tick 16 (.error .noSuchYear) .direct := by
  intro session
  have seen : trail session.signs = [⟨.direct, .nothing⟩, ⟨.loop, .refused goldAndTin⟩,
      ⟨.direct, .complete goldAndTin false⟩,
      ⟨.loop, .cancelled goldAndTin .writing⟩].flatMap Block.signs ++
        Tick.signs ⟨.direct, goldAndTin, .writing⟩ := by
    with_unfolding_all rfl
  have running : session.ticker.current = some ⟨.direct, goldAndTin, .writing⟩ := by
    with_unfolding_all rfl
  have entered : entrances session.signs = 5 := by decide +kernel
  have left : leavings session.signs = 4 := by decide +kernel
  obtain ⟨-, -, current, asked, -⟩ := ticks_exclude_each_other ["gold", "tin"] (5 : Rat) 2 turmoil
  have dropped := asked .tick 16 (.error .noSuchYear) .direct rfl
  rw [if_pos (by rw [entered, left]; decide)] at dropped
  exact ⟨seen, entered, left, (current _ running).2 _ _, dropped⟩

end Session
end PriceBoard
