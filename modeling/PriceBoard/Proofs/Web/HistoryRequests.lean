import PriceBoard.Proofs.Web.Answers
import PriceBoard.Proofs.Window

/-!
# Requests for the history of a window

Where the token of a request is not oversized, the request reaches the store from the cutoff of the
window that the token stands for, and what becomes of the commands decides the response. Where it is
oversized, no response is made and the store is not read.
-/
namespace PriceBoard.Web

open Window (StandsFor Oversized)

variable {Time : Type} [Timeline Time]

structure HistoryAnswer (deadline : Deadline Time) (world : Patterned Time) (token : String)
    (served : Patterned Time × Except Fault Response) : Prop where
  oversized : Oversized token.toList world.board.now →
    ∃ error, served = (world, .error (.history error))
  resolved : ¬Oversized token.toList world.board.now → ∃ window cutoff,
    StandsFor token.toList window ∧
      (cutoff.wall.micros : ℤ) = world.board.now.wall.micros - window.micros ∧
      cutoff.offset = world.board.now.offset ∧
      (world.needed (.more (Reading.since cutoff))).head? = some .ascending ∧
      Answered deadline world (.more (Reading.since cutoff))
        (world.board.store.snapshotsOf (world.board.store.index.filter (cutoff.epochMs ≤ ·.score)))
        served.2

variable {settings : SiteSettings Time} {world : Patterned Time} {request : Request}

theorem count_nothing (settings : SiteSettings Time) (world : Patterned Time) :
    (patternedSite settings).count [] world = world := by
  change ({ world with board := { world.board with metrics := world.board.metrics ++ [] } } :
    Patterned Time) = world
  rw [List.append_nil]

section

variable (isGet : request.method = "GET") (isPath : request.path = "/api/history")
include isGet isPath

theorem serve_window :
    (serve (patternedSite settings) world request).1 = (serveRun (patternedSite settings) (History.ofWindow Patterned.host
        world.board.now world (.token (some ((request.param? "filter").getD settings.defaultWindow)))
        (some settings.deadline))).1 ∧
      content (serve (patternedSite settings) world request).2 = content (serveRun (patternedSite settings)
        (History.ofWindow Patterned.host world.board.now world
          (.token (some ((request.param? "filter").getD settings.defaultWindow))) (some settings.deadline))).2 := by
  have routed : Endpoint.ofPath? request.path = some .history := by
    rw [isPath]
    rfl
  exact serve_get (patternedSite settings) world isGet routed

/-- Where the window has no cutoff, the error leaves the site and nothing else happens. -/
theorem serve_no_cutoff {error : HistoryError} (kind : error = .tokenTooLong ∨ error = .time .outOfRange)
    (failed : History.windowCutoff (.token (some ((request.param? "filter").getD settings.defaultWindow)))
      world.board.now = .error error) :
    serve (patternedSite settings) world request = (world, .error (.history error)) := by
  obtain ⟨sameWorld, sameContent⟩ := @serve_window _ _ settings world request isGet isPath
  have answered : serveRun (patternedSite settings) (History.ofWindow Patterned.host world.board.now world
      (.token (some ((request.param? "filter").getD settings.defaultWindow))) (some settings.deadline)) =
        (world, .error (.history error)) := by
    rw [History.ofWindow, failed]
    rcases kind with rfl | rfl
    · exact congrArg (·, _) (count_nothing settings world)
    · exact congrArg (·, _) (count_nothing settings world)
  rw [answered] at sameWorld sameContent
  exact Prod.ext sameWorld (error_of_content sameContent)

/-- Only an oversized token keeps a request for the history from the store. -/
theorem history_answers_unless_oversized (positive : 0 < settings.deadline.limit)
    (recent : 1000 ≤ world.board.now.wall.date.year) (reachable : world.board.store.Reachable) :
    HistoryAnswer settings.deadline world ((request.param? "filter").getD settings.defaultWindow)
      (serve (patternedSite settings) world request) := by
  obtain ⟨oversized, resolved⟩ :=
    @History.token_cutoff ((request.param? "filter").getD settings.defaultWindow) world.board.now recent
  constructor
  · intro tooBig
    obtain ⟨error, kind, failed⟩ := oversized tooBig
    exact ⟨error, serve_no_cutoff isGet isPath kind failed⟩
  · intro fits
    obtain ⟨window, cutoff, stands, read, micros, offset⟩ := resolved fits
    refine ⟨window, cutoff, stands, micros, offset, rfl, answered_of_fate ?_⟩
    have ends := Reading.outcome_since (Store.reachable_wellformed reachable) cutoff
      (2 * world.board.store.index.length)
    rw [(serve_window isGet isPath).2, History.ofWindow, read]
    exact congrArg content
      (@serve_call _ _ settings _ world (.more (Reading.since cutoff)) _ positive .window ends)

end

def windowRequest (token : String) : Request := ⟨"GET", "/api/history", [("filter", token)], []⟩

/-- An empty board whose index takes eleven seconds to read. -/
def slowWorld : Patterned Rat :=
  ⟨Board.start ⟨3600, 500, 1000⟩ ["bitcoin"] ⟨⟨63840000008000000, by decide⟩, some Offset.utc⟩,
    fun _ => Conditions.calm.withDelay .ascending 11⟩

theorem minute_not_oversized : ¬Oversized "1m".toList slowWorld.board.now := by
  rintro ⟨digits, unit, writes, tooBig⟩
  obtain ⟨front, known⟩ := writes.scan
  have digitsAre : digits = ['1'] := by
    rw [← front]
    rfl
  have unitIs : unit = .minute := by
    apply Option.some.inj
    rw [← known]
    rfl
  subst digitsAre unitIs
  revert tooBig
  decide

theorem history_answers_unless_oversized_slow :
    HasStatus (serve (patternedSite .standard) slowWorld (windowRequest "1m")).2 504 := by
  have recent : 1000 ≤ slowWorld.board.now.wall.date.year := by decide
  obtain ⟨_, cutoff, _, _, _, first, answered⟩ := (@history_answers_unless_oversized Rat _ .standard slowWorld
    (windowRequest "1m") rfl rfl (by decide) recent .empty).resolved minute_not_oversized
  apply answered.expired.mpr
  obtain ⟨rest, needed⟩ := List.head?_eq_some_iff.mp first
  rw [Patterned.Expires, needed, Pattern.expires_cons]
  refine .inl ⟨_, rfl, ?_⟩
  change ¬(if (0 : ℚ) < 11 then 0 + 11 else 0) < (0 + 10 : ℚ)
  norm_num

/-- A well-formed token, on a board of this century, whose request gets no response. -/
theorem billion_days_unanswered :
    slowWorld.board.store.Reachable ∧ slowWorld.board.now.offset = some Offset.utc ∧
      1000 ≤ slowWorld.board.now.wall.date.year ∧
      serve (patternedSite .standard) slowWorld (windowRequest "999999999d") =
        (slowWorld, .error (.history (.time .outOfRange))) := by
  have read : Window.readOrDefault (some "999999999d") = .ok ⟨999999999, .day, by decide⟩ := by rfl
  have exceeds : (Window.mk 999999999 .day (by decide)).cutoff slowWorld.board.now =
      .error .outOfRange := Window.cutoff_of_exceeds (by decide)
  have failed : History.windowCutoff (.token (some "999999999d")) slowWorld.board.now =
      .error (.time .outOfRange) := by
    rw [History.token_cutoff_of_read read, exceeds]
    rfl
  exact ⟨.empty, rfl, by decide, serve_no_cutoff rfl rfl (.inr rfl) failed⟩

end PriceBoard.Web
