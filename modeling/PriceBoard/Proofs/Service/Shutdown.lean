import PriceBoard.Proofs.Service.Tending
import PriceBoard.Proofs.Ticker.Cadence

/-!
# The end of a service

A service that is shut down closes its streams and releases the store, in whatever state its loop is,
unless the loop has failed or its last tick ends where no deadline follows. Then the stop raises the error
that the loop ended with, and nothing is closed or released.
-/
namespace PriceBoard.Service

open Feed (Activity Attempt)

section

variable {Time : Type}

structure Released (service : Service Time) : Prop where
  closed : service.incoming = []
  released : service.released = true
  unraised : service.raised = []

structure Raised (service : Service Time) (error : TickError) : Prop where
  unreleased : service.released = false
  raised : service.raised = [error]

variable {before after : Service Time}

theorem Released.rests (released : before.Released) (rests : before.Rests after) : after.Released := by
  obtain ⟨_, _, _, _, _, raised, rfl⟩ := rests
  exact ⟨released.closed, released.released, raised.trans released.unraised⟩

theorem Raised.rests {error : TickError} (raised : before.Raised error) (rests : before.Rests after) :
    after.Raised error := by
  obtain ⟨_, _, _, _, _, same, rfl⟩ := rests
  exact ⟨raised.unreleased, same.trans raised.raised⟩

end

variable {Time : Type} [Timeline Time] {settings : ServiceSettings Time} {opening : DateTime} {most : ℕ}
  {service before after : Service Time}

theorem released_of_stopped (tended : service.Tended settings opening most) (cancelled : Bool) :
    (service.perform (.stopped cancelled)).Released := by
  refine ⟨rfl, rfl, ?_⟩
  exact (raised_note service .stopped).trans (by rw [tended.unraised]; rfl)

theorem raised_of_stop_failed (tended : service.Tended settings opening most) (error : TickError) :
    (service.perform (.stopFailed error)).Raised error := by
  refine ⟨tended.unreleased, ?_⟩
  exact (raised_note service (.stopFailed error)).trans (by rw [tended.unraised]; rfl)

/-! ### Waiting for the last tick -/

structure Stopping (settings : ServiceSettings Time) (opening : DateTime) (most : ℕ)
    (service : Service Time) (errand : Errand) : Prop where
  tended : service.Tended settings opening most
  waits : ∃ stop, service.ticker.stops = [stop]
  working : ∃ deadline, service.Working deadline errand

/-- How a stop ends that waited: everything is released, or no deadline follows. -/
def Ended (interval : Time) (service : Service Time) : Prop :=
  service.Released ∨ ∃ error, Deadless interval error ∧ service.Raised error

theorem settle_of_unstopped (unstopped : service.ticker.stops = []) (budget : ℕ) :
    settle budget service = service := by
  cases budget with
  | zero => rfl
  | succ budget => rw [settle, unstopped, List.isEmpty_nil, if_pos rfl]

theorem ended_of_concluded (tended : before.Tended settings opening most)
    (waits : before.ticker.stops ≠ []) (concluded : Concluded before after) :
    after.ticker.stops = [] ∧ after.Ended settings.interval := by
  have left : (before.leave .absent).Tended settings opening most :=
    tended.turn (by rfl) before.owed
  cases concluded with
  | goesOn unstopped next now rests => exact absurd unstopped waits
  | fails unstopped error without rests => exact absurd unstopped waits
  | released waits rests =>
      refine ⟨?_, .inl ((released_of_stopped left false).rests rests)⟩
      obtain ⟨_, _, _, _, _, _, rfl⟩ := rests
      rfl
  | raised waits error without rests =>
      rw [tended.interval] at without
      refine ⟨?_, .inr ⟨error, without, (raised_of_stop_failed left error).rests rests⟩⟩
      obtain ⟨_, _, _, _, _, _, rfl⟩ := rests
      rfl

/-- The loop's tick is given up. -/
theorem tell_grace_over {deadline stop : Time} (inside : service.ticker.loop = .ticking deadline)
    (waits : service.ticker.stops = [stop]) :
    service.tell .graceOver =
      ((({ service with owed := none } : Service Time).leave .absent).perform
        (.count .tickLatency)).perform (.stopped true) := by
  have turn : service.ticker.step service.clock service.taken .graceOver =
      ({ service.ticker with loop := .absent, current := none, stops := [] },
        [.cancel, .count .tickLatency, .stopped true]) := by
    simp only [Ticker.step, inside, waits, Ticker.cancel, List.map_cons, List.map_nil]
  rw [tell_eq service .graceOver turn]
  rfl

omit [Timeline Time] in
theorem Stopping.rests {errand : Errand} (stopping : before.Stopping settings opening most errand)
    (rests : before.Rests after) : after.Stopping settings opening most errand := by
  have tended := stopping.tended.rests rests
  have working : ∃ deadline, after.Working deadline errand :=
    stopping.working.imp fun _ working => working.rests rests
  obtain ⟨_, _, _, _, _, _, rfl⟩ := rests
  exact ⟨tended, stopping.waits, working⟩

omit [Timeline Time] in
theorem Stopping.patient {errand : Errand} (stopping : service.Stopping settings opening most errand) :
    service.ticker.stops.length ≤ 1 := by
  obtain ⟨stop, waits⟩ := stopping.waits
  rw [waits]
  exact le_rfl

/-- How many things can still happen while a stop waits, its patience apart. -/
def ahead (service : Service Time) (errand : Errand) : ℕ := service.incoming.length + errand.left

/-- While a stop waits, whatever happens either brings the end closer or is the end. -/
def Nears (settings : ServiceSettings Time) (opening : DateTime) (most bound : ℕ)
    (service : Service Time) : Prop :=
  (∃ errand, service.Stopping settings opening most errand ∧ service.ahead errand < bound) ∨
    service.ticker.stops = [] ∧ service.Ended settings.interval

theorem errand_nears {errand : Errand} (stopping : service.Stopping settings opening most errand) :
    (service.finish errand).Nears settings opening most (service.ahead errand) := by
  obtain ⟨deadline, working⟩ := stopping.working
  obtain ⟨stop, waits⟩ := stopping.waits
  rcases finish_working working stopping.patient with ⟨next, fewer, snapshot, time, rests⟩ | concluded
  · refine .inl ⟨next, ?_, ?_⟩
    · refine Stopping.rests ?_ rests
      exact ⟨stopping.tended.turn (by rfl) _, ⟨stop, waits⟩, deadline, working.inside,
        ⟨snapshot, rfl⟩, time, rfl⟩
    · obtain ⟨_, _, _, _, _, _, same⟩ := rests
      rw [same]
      exact Nat.add_lt_add_left fewer _
  · have waiting : service.ticker.stops ≠ [] := by
      rw [waits]
      exact List.cons_ne_nil stop []
    have tended : ({ service with owed := none } : Service Time).Tended settings opening most :=
      stopping.tended.turn (by rfl) none
    exact .inr (ended_of_concluded tended waiting concluded)

theorem arrival_nears {errand : Errand} (stopping : service.Stopping settings opening most errand)
    (comes : service.incoming ≠ []) (feed : String) (activity : Activity Time) :
    (({ service with incoming := service.incoming.tail } : Service Time).hear feed activity).Nears
      settings opening most (service.ahead errand) := by
  have rests := hear_rests { service with incoming := service.incoming.tail } feed activity
  have informed := informed_hear stopping.tended.informed feed activity
  obtain ⟨deadline, inside, running, owed⟩ := stopping.working
  refine .inl ⟨errand, ?_, ?_⟩
  · refine Stopping.rests ?_ rests
    exact ⟨stopping.tended.arrival.board informed, stopping.waits, deadline, inside, running, owed⟩
  · obtain ⟨_, _, _, _, _, _, same⟩ := rests
    rw [same]
    have shorter : service.incoming.tail.length < service.incoming.length := by
      rw [List.length_tail]
      exact Nat.sub_lt (List.length_pos_of_ne_nil comes) Nat.one_pos
    exact Nat.add_lt_add_right shorter _

theorem patience_nears {errand : Errand} (stopping : service.Stopping settings opening most errand)
    (bound : ℕ) : (service.tell .graceOver).Nears settings opening most bound := by
  obtain ⟨deadline, working⟩ := stopping.working
  obtain ⟨stop, waits⟩ := stopping.waits
  rw [tell_grace_over working.inside waits]
  have plain : (Ticker.Effect.count .tickLatency).Plain := trivial
  have tended : ((({ service with owed := none } : Service Time).leave .absent).perform
      (.count .tickLatency)).Tended settings opening most :=
    (stopping.tended.turn (by rfl) none).rests (rests_perform plain _)
  exact .inr ⟨rfl, .inl (released_of_stopped tended true)⟩

theorem jump_nears {errand : Errand} (stopping : service.Stopping settings opening most errand)
    {time : Time} {due : Due Time} (next : service.next? = some (time, due)) :
    (service.jump time due).Nears settings opening most (service.ahead errand) := by
  have moved := stopping.rests (rests_moveTo service time)
  obtain ⟨deadline, working⟩ := stopping.working
  cases due_now next with
  | errand other owed =>
      obtain ⟨dueAt, owes⟩ := working.owed
      cases owed.symm.trans owes
      exact errand_nears moved
  | arrival feed activity first =>
      apply arrival_nears moved _ feed activity
      intro none
      rw [show service.incoming = [] from none] at first
      exact nomatch first
  | patience expires => exact patience_nears moved _
  | sleep deadline asleep => cases asleep.symm.trans working.inside

/-- A stop that waits comes to its end. -/
theorem settle_ends {errand : Errand} (stopping : service.Stopping settings opening most errand)
    {budget : ℕ} (enough : service.ahead errand ≤ budget) :
    (settle budget service).Ended settings.interval := by
  induction budget generalizing service errand with
  | zero =>
      have some : 0 < service.ahead errand := by cases errand <;> exact Nat.succ_pos _
      exact absurd enough (Nat.not_le_of_lt some)
  | succ budget induction =>
      obtain ⟨deadline, working⟩ := stopping.working
      obtain ⟨stop, waits⟩ := stopping.waits
      obtain ⟨⟨time, due⟩, next⟩ := next_of_working working
      have step : settle (budget + 1) service = settle budget (service.jump time due) := by
        rw [settle, waits, next]
        rfl
      rw [step]
      rcases jump_nears stopping next with ⟨other, still, fewer⟩ | ⟨unstopped, ended⟩
      · exact induction still (Nat.le_of_lt_succ (fewer.trans_le enough))
      · rw [settle_of_unstopped unstopped]
        exact ended

/-! ### Stopping -/

section

variable (runs : service.Runs settings opening most) (budget : ℕ)
include runs

theorem tell_stop_outside (outside : service.ticker.loop.inTick = false)
    (unfailed : ∀ error, service.ticker.loop ≠ .failed error) :
    (settle budget (service.tell .stop)).Released := by
  have turn : service.ticker.step service.clock service.taken .stop =
      ({ service.ticker with loop := .absent }, [.stopped false]) := by
    cases state : service.ticker.loop with
    | absent =>
        simp only [Ticker.step, state]
        rw [← state]
    | waiting deadline wakeAt => simp only [Ticker.step, state]
    | ticking deadline =>
        rw [state] at outside
        cases outside
    | failed error => exact absurd state (unfailed error)
  have tended : ({ service with ticker := { service.ticker with loop := .absent } } :
      Service Time).Tended settings opening most := runs.tended.turn (by rfl) service.owed
  rw [tell_eq service .stop turn, settle_of_unstopped (by exact runs.unstopped)]
  exact released_of_stopped tended false

theorem tell_stop_failed {error : TickError} (failed : service.ticker.loop = .failed error) :
    (settle budget (service.tell .stop)).Raised error := by
  have turn : service.ticker.step service.clock service.taken .stop =
      ({ service.ticker with loop := .absent }, [.stopFailed error]) := by
    simp only [Ticker.step, failed]
  have tended : ({ service with ticker := { service.ticker with loop := .absent } } :
      Service Time).Tended settings opening most := runs.tended.turn (by rfl) service.owed
  rw [tell_eq service .stop turn, settle_of_unstopped (by exact runs.unstopped)]
  exact raised_of_stop_failed tended error

theorem tell_stop_inside {deadline : Time} {errand : Errand}
    (working : service.Working deadline errand) (enough : service.ahead errand ≤ budget) :
    (settle budget (service.tell .stop)).Ended settings.interval := by
  by_cases patient : 0 < service.ticker.grace
  · have turn : service.ticker.step service.clock service.taken .stop =
        ({ service.ticker with stops := [service.clock + service.ticker.grace] }, []) := by
      simp only [Ticker.step, working.inside, if_pos patient, runs.unstopped, List.nil_append]
    have stopping : Stopping settings opening most
        { service with
          ticker := { service.ticker with stops := [service.clock + service.ticker.grace] } }
        errand :=
      ⟨runs.tended.turn (by rfl) service.owed, ⟨_, rfl⟩, deadline, working.inside, working.running,
        working.owed⟩
    rw [tell_eq service .stop turn]
    exact settle_ends stopping enough
  · have turn : service.ticker.step service.clock service.taken .stop =
        ({ service.ticker with loop := .absent, current := none, stops := [] },
          [.cancel, .count .tickLatency, .stopped true]) := by
      simp only [Ticker.step, working.inside, if_neg patient, runs.unstopped, List.nil_append,
        Ticker.cancel, List.map_cons, List.map_nil]
    have plain : (Ticker.Effect.count .tickLatency).Plain := trivial
    have tended : ((({ service with owed := none } : Service Time).leave .absent).perform
        (.count .tickLatency)).Tended settings opening most :=
      (runs.tended.turn (by rfl) none).rests (rests_perform plain _)
    have released := released_of_stopped tended true
    rw [tell_eq service .stop turn, settle_of_unstopped (by rfl)]
    exact .inl released

end

theorem left_le (errand : Errand) : errand.left ≤ 3 := by
  cases errand <;> simp [Errand.left]

structure ShutDown (settings : ServiceSettings Time) (opening : DateTime)
    (before after : Service Time) : Prop where
  outside : before.ticker.loop.inTick = false → (∀ error, before.ticker.loop ≠ .failed error) →
    after.Released
  inside : before.ticker.loop.inTick = true → after.Ended settings.interval
  failed : ∀ error, before.ticker.loop = .failed error →
    after.Raised error ∧ LoopError settings.interval opening error

theorem shut_down_of_runs (runs : service.Runs settings opening most) {budget : ℕ}
    (enough : most + 3 ≤ budget) :
    service.ShutDown settings opening (settle budget (service.tell .stop)) where
  outside outside unfailed := tell_stop_outside runs budget outside unfailed
  inside inside := by
    rcases runs.phase with resting | ⟨deadline, errand, working⟩
    · rw [resting.outside] at inside
      cases inside
    · apply tell_stop_inside runs budget working
      exact (Nat.add_le_add runs.tended.few (left_le errand)).trans enough
  failed error failed := ⟨tell_stop_failed runs budget failed, runs.causes error failed⟩

/-! ### The whole life of a service -/

def begun (settings : ServiceSettings Time) (opening : DateTime)
    (attempts : String → List (Attempt Time)) (pings : Retry.Run Time Unit Unit) : Service Time :=
  let service := make settings opening attempts pings.clock
  let notes := (pings.events.map (·.1)).dropLast.map fun time => (time, ServiceNote.pingFailed)
  ({ service with notes }.note .started).tell .start

theorem live_eq (settings : ServiceSettings Time) (opening : DateTime)
    (attempts : String → List (Attempt Time)) {pings : Retry.Run Time Unit Unit}
    (answered : pings.ending = .success ()) (budget : ℕ)
    (actions : List (Time × ServiceAction Time)) :
    live settings opening attempts pings budget actions =
      shutDown budget ((begun settings opening attempts pings).follow budget actions) := by
  rw [live, answered]
  rfl

theorem make_tended (settings : ServiceSettings Time) (opening : DateTime)
    (attempts : String → List (Attempt Time)) (clock : Time) :
    (make settings opening attempts clock).Tended settings opening
      (make settings opening attempts clock).incoming.length where
  interval := rfl
  opening := rfl
  informed := by
    have same := quotes_moveTo (Board.start settings.board (settings.feeds.map (·.1)) opening) opening
      clock
    refine ⟨[], ?_⟩
    rw [make, same]
    exact Feed.reflects_empty (settings.feeds.map (·.1))
  few := le_rfl
  unreleased := rfl
  unraised := rfl

theorem begun_runs (settings : ServiceSettings Time) (opening : DateTime)
    (attempts : String → List (Attempt Time)) (pings : Retry.Run Time Unit Unit) :
    (begun settings opening attempts pings).Runs settings opening
      (make settings opening attempts pings.clock).incoming.length := by
  let times := (pings.events.map (·.1)).dropLast
  let service := ({ make settings opening attempts pings.clock with
    notes := times.map fun time => (time, ServiceNote.pingFailed) } : Service Time).note .started
  have silent : (times.map fun time => (time, ServiceNote.pingFailed)).filterMap (·.2.raised?) = [] := by
    rw [List.filterMap_map]
    exact List.filterMap_eq_nil_iff.mpr fun _ _ => rfl
  have rests : (make settings opening attempts pings.clock).Rests service :=
    Rests.trans ⟨_, _, _, _, rfl, silent, rfl⟩ (rests_note _ rfl)
  have tended := (make_tended settings opening attempts pings.clock).rests rests
  have turn : service.ticker.step service.clock service.taken .start =
      ({ service.ticker with
        loop := Ticker.sleepUntil (service.clock + service.ticker.interval) service.clock }, []) := rfl
  have started : begun settings opening attempts pings = service.tell .start := rfl
  rw [started, tell_eq service .start turn]
  refine ⟨tended.turn (by rfl) service.owed, rfl, .inl ⟨rfl, rfl, rfl⟩, ?_⟩
  intro error failed
  rw [List.foldl_nil, Ticker.sleepUntil] at failed
  cases failed

/-- A service that is shut down closes and releases everything unless its loop has failed, or is in a tick
and finds no next deadline at its end; then its stop raises the error. Of a loop that never lets time
pass this tells only what follows once `runUntil` has spent its budget on it. -/
theorem live_shuts_down (settings : ServiceSettings Time)
    (distinct : (settings.feeds.map (·.1)).Nodup) (opening : DateTime)
    (attempts : String → List (Attempt Time)) {pings : Retry.Run Time Unit Unit}
    (answered : pings.ending = .success ()) {budget : ℕ}
    (enough : (make settings opening attempts pings.clock).incoming.length + 3 ≤ budget)
    (actions : List (Time × ServiceAction Time)) :
    ((begun settings opening attempts pings).follow budget actions).ShutDown settings opening
      (live settings opening attempts pings budget actions) := by
  have runs := runs_follow distinct budget (begun_runs settings opening attempts pings) actions
  rw [live_eq settings opening attempts answered]
  generalize (begun settings opening attempts pings).follow budget actions = before at runs ⊢
  have left := runs.rests (rests_clients (before.clients.map fun client =>
    { client with listening := false }))
  have ends := shut_down_of_runs left enough
  exact ⟨ends.outside, ends.inside, ends.failed⟩

/-- On exact times only deadlines that are no time apart have no next one. -/
theorem deadless_iff_zero {interval : ℚ} : (∃ error, Deadless interval error) ↔ interval = 0 := by
  constructor
  · rintro ⟨error, deadline, now, without⟩
    by_contra nonzero
    have moves : 0 < interval ∨ interval < 0 := (lt_or_gt_of_ne nonzero).symm
    rw [Ticker.next_deadline_rat, if_pos moves] at without
    split at without
    · cases without
    · cases without
  · rintro rfl
    exact ⟨.zeroInterval, 0, 0, by rw [Ticker.next_deadline_rat]; norm_num⟩

def promptPings : Retry.Run ℚ Unit Unit := ⟨[(0, .call)], 0, .success ()⟩

def newYear : DateTime := ⟨⟨63839664000000000, by decide⟩, some Offset.utc⟩

def feedless : ServiceSettings ℚ := ⟨⟨3600, 500, 100⟩, .standard, [], false, ⟨1, 30⟩, 2, 10⟩

def streaming : ServiceSettings ℚ :=
  { feedless with feeds := [("gold", "goldusdt"), ("tin", "tinusdt")], listens := true }

def aPrice : Feed.Payload := .text "\x7b\"p\": 64\x7d"

/-- A price after a second, and two more, four seconds apart. -/
def threePrices (_ : String) : List (Attempt ℚ) :=
  [.opened [⟨1, aPrice⟩, ⟨4, aPrice⟩, ⟨4, aPrice⟩] .silent]

theorem three_prices_activities (backoff : Backoff ℚ) (feed : String) :
    Feed.Stream.activities backoff 0 (threePrices feed) = [(0, .connecting), (0, .connected),
      (1, .received aPrice), (5, .received aPrice), (9, .received aPrice)] := by
  have read : Feed.readTrade aPrice = .ok (some ⟨64, none⟩) := by decide +kernel
  have first : Timeline.wait (0 : ℚ) 1 = 1 := by decide +kernel
  have second : Timeline.wait (1 : ℚ) 4 = 5 := by decide +kernel
  have third : Timeline.wait (5 : ℚ) 4 = 9 := by decide +kernel
  simp only [Feed.Stream.activities, threePrices, Feed.Stream.follow, Feed.Stream.receive, read,
    first, second, third, if_true]

def onTheWay (price : Feed.Payload) : List (ℚ × String × Activity ℚ) :=
  [(0, "gold", .connecting), (0, "gold", .connected), (0, "tin", .connecting),
    (0, "tin", .connected), (1, "gold", .received price), (1, "tin", .received price),
    (5, "gold", .received price), (5, "tin", .received price), (9, "gold", .received price),
    (9, "tin", .received price)]

theorem streaming_incoming :
    (make streaming newYear threePrices 0).incoming = onTheWay aPrice := by
  simp only [make, streaming, List.flatMap_cons, List.flatMap_nil, three_prices_activities, if_true]
  generalize aPrice = price
  norm_num [onTheWay, List.mergeSort, List.MergeSort.Internal.splitInTwo, List.cons_merge_cons]

/-- The service as it is made, with what its streams bring written out. -/
def tuned : Service ℚ :=
  { make { streaming with listens := false } newYear threePrices 0 with incoming := onTheWay aPrice }

theorem make_tuned : make streaming newYear threePrices promptPings.clock = tuned := by
  rw [tuned, ← streaming_incoming]
  rfl

theorem begun_tuned : begun streaming newYear threePrices promptPings =
    (({ tuned with notes := [] } : Service ℚ).note .started).tell .start := by
  rw [begun, make_tuned]
  rfl

/-- The write of the tick at two takes five seconds; the last action comes at three. -/
def slowWrite : List (ℚ × ServiceAction ℚ) := [(0, .delay .write 5), (3, .say)]

theorem live_shuts_down_inside_tick :
    (streaming.feeds.map (·.1)).Nodup ∧ promptPings.ending = .success () ∧
      ((begun streaming newYear threePrices promptPings).follow 13 slowWrite).ticker.loop.inTick =
        true ∧
      ((begun streaming newYear threePrices promptPings).follow 13 slowWrite).incoming.length = 4 ∧
      (live streaming newYear threePrices promptPings 13 slowWrite).Released := by
  have distinct : (streaming.feeds.map (·.1)).Nodup := by decide
  have answered : promptPings.ending = .success () := rfl
  have enough : (make streaming newYear threePrices promptPings.clock).incoming.length + 3 ≤ 13 := by
    rw [make_tuned]
    decide
  have inside : ((begun streaming newYear threePrices promptPings).follow 13
      slowWrite).ticker.loop.inTick = true := by
    rw [begun_tuned]
    decide +kernel
  have coming : ((begun streaming newYear threePrices promptPings).follow 13
      slowWrite).incoming.length = 4 := by
    rw [begun_tuned]
    decide +kernel
  have ends := live_shuts_down streaming distinct newYear threePrices answered enough slowWrite
  refine ⟨distinct, answered, inside, coming, (ends.inside inside).resolve_right ?_⟩
  rintro ⟨error, without, _⟩
  have zero : (2 : ℚ) = 0 := deadless_iff_zero.mp ⟨error, without⟩
  norm_num at zero

/-- A service whose deadlines are no time apart is not released. -/
theorem zero_interval_not_released :
    (live { feedless with feeds := [("bitcoin", "btcusdt")], interval := 0 } newYear (fun _ => [])
      promptPings 9 [(1, .say)]).released = false := by
  decide +kernel

end PriceBoard.Service
