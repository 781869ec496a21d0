import PriceBoard.Proofs.Board.StoredForm
import PriceBoard.Proofs.Web.Sites

/-!
# Readiness

A board is ready once a tick has written its snapshot, published or not, and stays ready. Requests come
between the steps and change nothing. Until the board is ready it names the feeds that wait for a report.
-/
namespace PriceBoard

open Web (Request Response SiteSettings HasStatus Returns serve siteOf waitingMessage)

inductive Happening (Time : Type) where
  | taken (step : Step Time)
  | served (request : Request)

def Happening.report? {Time : Type} : Happening Time → Option (String × Float)
  | .taken step => step.report?
  | .served _ => none

def heard {Time : Type} (happenings : List (Happening Time)) : List (String × Float) :=
  happenings.filterMap Happening.report?

structure Web.Request.AsksReadiness (request : Request) : Prop where
  isGet : request.method = "GET"
  isPath : request.path = "/readyz"

namespace Board

variable {Time : Type} [Timeline Time] {web : SiteSettings Time} {board : Board Time}
  {snapshot : Snapshot}

def happen (web : SiteSettings Time) (board : Board Time) : Happening Time → Board Time
  | .taken step => (board.step step).1
  | .served request => (serve (siteOf web) board request).1

def after (web : SiteSettings Time) (board : Board Time) (happenings : List (Happening Time)) :
    Board Time :=
  happenings.foldl (happen web) board

def answer (web : SiteSettings Time) (board : Board Time) (request : Request) :
    Except Web.Fault Response :=
  (serve (siteOf web) board request).2

structure TickWrites (board : Board Time) (snapshot : Snapshot) : Prop where
  taken : board.quotes.take (.ok board.now) = .ok (some snapshot)
  written : (board.insert snapshot).2 = .ok ()
  stored : board.tick.1.store = (board.insert snapshot).1.store

def Persisted (web : SiteSettings Time) (board : Board Time) (happenings : List (Happening Time)) :
    Prop :=
  ∃ earlier later snapshot, happenings = earlier ++ .taken .tick :: later ∧
    (board.after web earlier).TickWrites snapshot

/-! ### One step -/

theorem rests_serve (web : SiteSettings Time) (board : Board Time) (request : Request) :
    board.Rests (serve (siteOf web) board request).1 := by
  have issues (deadline : Option Time) (command : Command) (world : Board Time)
      (rests : board.Rests world) : board.Rests (world.issue deadline command).1 :=
    rests.trans (rests_issue deadline command world)
  have counts (metrics : List Metric) (world : Board Time) (rests : board.Rests world) :
      board.Rests (world.count metrics) :=
    rests.trans (rests_count world metrics)
  exact Web.serve_keeps issues counts (.refl board) request

theorem tick_writes_iff : board.TickWrites snapshot ↔
    board.quotes.take (.ok board.now) = .ok (some snapshot) ∧
      (board.conditions .write).failure = none := by
  constructor
  · rintro ⟨taken, written, -⟩
    exact ⟨taken, insert_writes written⟩
  · rintro ⟨taken, writes⟩
    exact ⟨taken, (insert_written writes).2, tick_store taken⟩

/-- Whether a tick writes its snapshot does not depend on whether it is published. -/
theorem tick_writes_of_fail_publish (message : Option String) :
    (board.step (.fail .publish message)).1.TickWrites snapshot ↔ board.TickWrites snapshot := by
  rw [tick_writes_iff, tick_writes_iff]
  rfl

theorem insert_ready (board : Board Time) (snapshot : Snapshot) :
    (board.insert snapshot).1.ready = board.ready := by
  cases failure : (board.conditions .write).failure with
  | none => exact (insert_written failure).1.ready
  | some message => exact (insert_refused failure).1.ready

theorem tick_ready (board : Board Time) :
    board.tick.1.ready = true ↔ board.ready = true ∨ ∃ snapshot, board.TickWrites snapshot := by
  cases tick_ends board with
  | untaken nothing rests =>
      have unwritten : ¬∃ snapshot, board.TickWrites snapshot :=
        fun ⟨snapshot, writes⟩ => nothing snapshot writes.taken
      rw [rests.ready, or_iff_left unwritten]
  | refused refused rests =>
      have unwritten : ¬∃ snapshot, board.TickWrites snapshot :=
        fun ⟨_, writes⟩ => refused (insert_writes writes.written)
      rw [rests.ready, or_iff_left unwritten]
  | written snapshot taken writes rests =>
      have ready : board.tick.1.ready = true := rests.ready
      exact iff_of_true ready (.inr ⟨snapshot, tick_writes_iff.mpr ⟨taken, writes⟩⟩)

/-- Only a tick makes a board ready. -/
theorem step_ready (board : Board Time) {step : Step Time} (other : step ≠ .tick) :
    (board.step step).1.ready = board.ready := by
  cases changed board step with
  | reported feed value time report clock quiet rests => exact rests.ready
  | set conditions silent quiet rests => exact rests.ready
  | wrote silent clock writes steady =>
      cases step with
      | tick => exact absurd rfl other
      | insert snapshot => exact insert_ready board snapshot
      | forget ms => rfl
      | _ => exact writes.elim

theorem happen_ready (web : SiteSettings Time) (board : Board Time) (happening : Happening Time) :
    (board.happen web happening).ready = true ↔
      board.ready = true ∨ (happening = .taken .tick ∧ ∃ snapshot, board.TickWrites snapshot) := by
  by_cases ticks : happening = .taken .tick
  · subst ticks
    simp only [true_and]
    exact tick_ready board
  · have kept : (board.happen web happening).ready = board.ready := by
      cases happening with
      | taken step => exact step_ready board fun same => ticks (congrArg _ same)
      | served request => exact (rests_serve web board request).ready
    rw [kept]
    simp only [ticks, false_and, or_false]

theorem happen_reflects {feeds : List String} {earlier : List (String × Float)}
    (reflects : board.quotes.Reflects feeds earlier) (happening : Happening Time) :
    (board.happen web happening).quotes.Reflects feeds (earlier ++ happening.report?.toList) := by
  cases happening with
  | taken step => exact step_reflects reflects step
  | served request =>
      have kept : (board.happen web (.served request)).quotes = board.quotes :=
        (rests_serve web board request).quotes
      rw [kept]
      simpa [Happening.report?] using reflects

/-! ### Runs -/

theorem persisted_cons (web : SiteSettings Time) (board : Board Time) (happening : Happening Time)
    (happenings : List (Happening Time)) :
    board.Persisted web (happening :: happenings) ↔
      (happening = .taken .tick ∧ ∃ snapshot, board.TickWrites snapshot) ∨
        (board.happen web happening).Persisted web happenings := by
  constructor
  · rintro ⟨earlier, later, snapshot, parts, writes⟩
    cases earlier with
    | nil =>
        obtain ⟨ticks, -⟩ := List.cons.inj parts
        exact .inl ⟨ticks, snapshot, writes⟩
    | cons first earlier =>
        obtain ⟨rfl, rest⟩ := List.cons.inj parts
        exact .inr ⟨earlier, later, snapshot, rest, writes⟩
  · rintro (⟨rfl, snapshot, writes⟩ | ⟨earlier, later, snapshot, rfl, writes⟩)
    · exact ⟨[], happenings, snapshot, rfl, writes⟩
    · exact ⟨happening :: earlier, later, snapshot, rfl, writes⟩

/-- What is persisted once stays persisted. -/
theorem persisted_append {earlier : List (Happening Time)} (persisted : board.Persisted web earlier)
    (later : List (Happening Time)) : board.Persisted web (earlier ++ later) := by
  obtain ⟨before, between, snapshot, rfl, writes⟩ := persisted
  refine ⟨before, between ++ later, snapshot, ?_, writes⟩
  rw [List.append_assoc, List.cons_append]

theorem after_ready (web : SiteSettings Time) (board : Board Time) (happenings : List (Happening Time)) :
    (board.after web happenings).ready = true ↔ board.ready = true ∨ board.Persisted web happenings := by
  induction happenings generalizing board with
  | nil =>
      have none : ¬board.Persisted web [] := by
        rintro ⟨earlier, later, snapshot, parts, -⟩
        exact List.append_ne_nil_of_right_ne_nil earlier (List.cons_ne_nil _ later) parts.symm
      rw [or_iff_left none]
      rfl
  | cons happening happenings induction =>
      -- the tick that writes is the first of these happenings, or one of the others
      have later := induction (board.happen web happening)
      rw [happen_ready, or_assoc, ← persisted_cons] at later
      exact later

theorem after_reflects {board : Board Time} {feeds : List String} {earlier : List (String × Float)}
    (reflects : board.quotes.Reflects feeds earlier) (happenings : List (Happening Time)) :
    (board.after web happenings).quotes.Reflects feeds (earlier ++ heard happenings) := by
  induction happenings generalizing board earlier with
  | nil =>
      rw [heard, List.filterMap_nil, List.append_nil]
      exact reflects
  | cons happening happenings induction =>
      rw [heard, filter_map_cons, ← List.append_assoc]
      exact @induction (board.happen web happening) _ (happen_reflects reflects happening)

/-! ### Answers -/

/-- What a board answers when it is asked whether it is ready. -/
theorem answer_readiness (web : SiteSettings Time) (board : Board Time) {request : Request} (asks : request.AsksReadiness) :
    Returns (board.answer web request) (Web.readinessResponse board.ready board.quotes.missing) := by
  have isPath : Web.Endpoint.ofPath? request.path = some .readiness := by
    rw [asks.isPath]
    decide
  exact (Web.serve_get (siteOf web) board asks.isGet isPath).2

/-- The answer to one who asks: ready where a snapshot is persisted, and else the feeds that are waited
for. -/
structure AnswersReadiness (web : SiteSettings Time) (board : Board Time) (request : Request) (persisted : Prop)
    (waiting : List String) : Prop where
  success : HasStatus (board.answer web request) 200 ↔ persisted
  ready : persisted →
    Returns (board.answer web request) (.json 200 (.object [("status", .string "ready")]))
  unready : ¬persisted → Returns (board.answer web request) (.text 503 (waitingMessage waiting))

theorem answers_readiness {request : Request} (asks : request.AsksReadiness) :
    board.AnswersReadiness web request (board.ready = true) board.quotes.missing := by
  have returns := answer_readiness web board asks
  rw [Web.readinessResponse] at returns
  by_cases ready : board.ready = true
  · rw [if_pos ready] at returns
    exact ⟨iff_of_true ⟨_, returns⟩ ready, fun _ => returns, fun unready => absurd ready unready⟩
  · rw [if_neg ready] at returns
    have refused : ¬HasStatus (board.answer web request) 200 :=
      fun has => nomatch (Web.status_unique returns has : 200 = 503)
    exact ⟨iff_of_false refused ready, fun isReady => absurd isReady ready, fun _ => returns⟩

theorem start_answers (web : SiteSettings Time) (settings : BoardSettings) (feeds : List String) (now : DateTime)
    (happenings : List (Happening Time)) {request : Request} (asks : request.AsksReadiness) :
    ((start settings feeds now).after web happenings).AnswersReadiness web request
      ((start settings feeds now).Persisted web happenings)
      (feeds.filter fun feed => feed ∉ names (heard happenings)) := by
  have unready : ¬(start settings feeds now : Board Time).ready = true := nofun
  have ready := after_ready web (start settings feeds now) happenings
  have reflects : ((start settings feeds now).after web happenings).quotes.Reflects feeds
      (heard happenings) :=
    @after_reflects _ _ web (start settings feeds now) _ [] (Feed.reflects_empty feeds) happenings
  rw [← (or_iff_right unready : _ ↔ (start settings feeds now).Persisted web happenings), ← ready,
    ← Feed.missing_eq reflects]
  exact answers_readiness asks

/-- Whatever has happened, the answer is success exactly where a tick has written its snapshot, even one
that was not published, and stays so; until then it names the configured feeds without a report, in their
order. -/
theorem ready_once_persisted (web : SiteSettings Time) (settings : BoardSettings) (feeds : List String) (now : DateTime)
    (earlier : List (Happening Time)) {request : Request} (asks : request.AsksReadiness) :
    ((start settings feeds now).after web earlier).AnswersReadiness web request
        ((start settings feeds now).Persisted web earlier)
        (feeds.filter fun feed => feed ∉ names (heard earlier)) ∧
      (∀ message snapshot, (((start settings feeds now).after web earlier).step
          (.fail .publish message)).1.TickWrites snapshot ↔
        ((start settings feeds now).after web earlier).TickWrites snapshot) ∧
      (HasStatus (((start settings feeds now).after web earlier).answer web request) 200 →
        ∀ later, HasStatus (((start settings feeds now).after web (earlier ++ later)).answer web request)
          200) := by
  have answers := start_answers web settings feeds now earlier asks
  refine ⟨answers, fun message snapshot => tick_writes_of_fail_publish message, ?_⟩
  intro success later
  have persisted := persisted_append (answers.success.mp success) later
  exact (start_answers web settings feeds now (earlier ++ later) asks).success.mpr persisted

def readinessRequest : Request := ⟨"GET", "/readyz", [], [("Origin", "https://page")]⟩

def openingMoment : DateTime := ⟨⟨63840000059000000, by decide⟩, some Offset.utc⟩

def twoFeeds : Board Rat := start ⟨60, 500, 1000⟩ ["gold", "silver"] openingMoment

/-- One of the feeds reports, and a tick finds no snapshot to take. -/
def halfHeard : List (Happening Rat) :=
  [.taken (.update "gold" 1.5 none), .taken .tick, .served readinessRequest]

/-- The other feed reports, and its snapshot is not written. -/
def unwritten : List (Happening Rat) :=
  halfHeard ++ [.taken (.update "silver" 2.5 none), .taken (.fail .write (some "refused")),
    .taken .tick, .served readinessRequest]

/-- The next snapshot is written but not published. -/
def unpublished : List (Happening Rat) :=
  unwritten ++ [.taken (.fail .write none), .taken (.fail .publish (some "refused")), .taken .tick]

theorem ready_once_persisted_in_trouble :
    readinessRequest.AsksReadiness ∧
      Returns ((twoFeeds.after .standard halfHeard).answer .standard readinessRequest)
        (.text 503 "not ready (waiting on ['silver'])") ∧
      Returns ((twoFeeds.after .standard unwritten).answer .standard readinessRequest)
        (.text 503 "not ready (waiting on [])") ∧
      Returns ((twoFeeds.after .standard unpublished).answer .standard readinessRequest)
        (.json 200 (.object [("status", .string "ready")])) := by
  have asks : readinessRequest.AsksReadiness := ⟨rfl, rfl⟩
  have answers (happenings : List (Happening Rat)) :=
    (ready_once_persisted .standard ⟨60, 500, 1000⟩ ["gold", "silver"] openingMoment happenings asks).1
  have persisted (happenings : List (Happening Rat)) :
      (twoFeeds.after .standard happenings).ready = true ↔ twoFeeds.Persisted .standard happenings :=
    (after_ready .standard twoFeeds happenings).trans (or_iff_right nofun)
  have first : ¬twoFeeds.Persisted .standard halfHeard := mt (persisted halfHeard).mpr (by decide +kernel)
  have second : ¬twoFeeds.Persisted .standard unwritten := mt (persisted unwritten).mpr (by decide +kernel)
  have third : twoFeeds.Persisted .standard unpublished := (persisted unpublished).mp (by decide +kernel)
  exact ⟨asks, (answers halfHeard).unready first, (answers unwritten).unready second,
    (answers unpublished).ready third⟩

end Board

end PriceBoard
