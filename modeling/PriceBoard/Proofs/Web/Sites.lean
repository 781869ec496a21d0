import PriceBoard.Proofs.Hosts
import PriceBoard.Proofs.Web.Answers

/-!
# Sites that answer alike

A map between the worlds of two sites that keeps what their hosts do keeps what they serve. So a board
answers as a world whose commands meet the conditions of the board, each of them the same ones.
-/
namespace PriceBoard.Web

variable {Time World Other : Type} [Timeline Time]

/-- The map keeps the board of a world and whatever its host does. -/
structure Alike (site : Site Time World) (other : Site Time Other) (image : World → Other) : Prop where
  settings : other.settings = site.settings
  clock : ∀ world, other.host.clock (image world) = site.host.clock world
  store : ∀ world, other.host.store (image world) = site.host.store world
  budget : ∀ world, other.host.budget (image world) = site.host.budget world
  issue : ∀ deadline command world, other.host.issue deadline command (image world) =
    Prod.map image id (site.host.issue deadline command world)
  board : ∀ world, other.board (image world) = site.board world
  count : ∀ metrics world, other.count metrics (image world) = image (site.count metrics world)

def mapRun (image : World → Other) (run : History.Run World) : History.Run Other :=
  ⟨image run.world, run.answer, run.metrics⟩

namespace Alike

variable {site : Site Time World} {other : Site Time Other} {image : World → Other}
  (alike : Alike site other image)
include alike

omit [Timeline Time] in
theorem run (deadline : Option Time) (budget : ℕ) (world : World) (reading : Reading) :
    Reading.run other.host deadline budget (image world) reading =
      Prod.map image id (Reading.run site.host deadline budget world reading) := by
  induction budget generalizing world reading with
  | zero => rfl
  | succ budget induction =>
      rw [Reading.run, Reading.run, alike.issue]
      rcases site.host.issue deadline reading.command world with ⟨after, issued⟩
      cases issued with
      | refused message => rfl
      | outOfTime => rfl
      | answered =>
          simp only [Prod.map_apply, id_eq, alike.store]
          cases reading.advance (site.host.store after) with
          | error error => rfl
          | ok progress =>
              cases progress with
              | done snapshots => rfl
              | more next => exact induction after next

omit [Timeline Time] in
theorem run_progress (deadline : Option Time) (world : World) (progress : Progress) :
    Reading.runProgress other.host deadline (image world) progress =
      Prod.map image id (Reading.runProgress site.host deadline world progress) := by
  cases progress with
  | done snapshots => rfl
  | more reading =>
      rw [Reading.runProgress, Reading.runProgress, alike.budget]
      exact alike.run deadline (site.host.budget world) world reading

theorem limited_call (kind : QueryKind) (world : World) (deadline : Option (Deadline Time))
    (begins : Except TimeError Progress) :
    History.limitedCall other.host kind (image world) deadline begins =
      Prod.map image id (History.limitedCall site.host kind world deadline begins) := by
  unfold History.limitedCall
  cases begins with
  | error error =>
      cases deadline with
      | none => rfl
      | some deadline => simp only; split_ifs <;> rfl
  | ok progress =>
      simp only [alike.run_progress, alike.clock]
      cases deadline with
      | none => rfl
      | some deadline => simp only; split_ifs <;> rfl

theorem call (kind : QueryKind) (world : World) (deadline : Option (Deadline Time))
    (begins : Except TimeError Progress) :
    History.call other.host kind (image world) deadline begins =
      mapRun image (History.call site.host kind world deadline begins) := by
  unfold History.call
  rw [alike.limited_call]
  rfl

theorem of_window (now : DateTime) (world : World) (choice : WindowChoice)
    (deadline : Option (Deadline Time)) :
    History.ofWindow other.host now (image world) choice deadline =
      mapRun image (History.ofWindow site.host now world choice deadline) := by
  unfold History.ofWindow
  cases History.windowCutoff choice now with
  | error error => rfl
  | ok cutoff => exact alike.call .window world deadline _

theorem search (context : Query.Context) (limit batch : ℤ) (world : World) (query : String)
    (deadline : Option (Deadline Time)) :
    History.search other.host context limit batch (image world) query deadline =
      mapRun image (History.search site.host context limit batch world query deadline) := by
  unfold History.search
  cases History.compile context query with
  | error error => rfl
  | ok predicate =>
      simp only
      rcases predicate.contradictory with error | (_ | _)
      · rfl
      · exact alike.call .predicate world deadline _
      · rfl

omit [Timeline Time] in
theorem serve_run (run : History.Run World) :
    serveRun other (mapRun image run) = Prod.map image id (serveRun site run) := by
  unfold serveRun mapRun
  rw [alike.count]
  rfl

theorem serve_endpoint (world : World) (request : Request) (endpoint : Endpoint) :
    serveEndpoint other (image world) request endpoint =
      Prod.map image id (serveEndpoint site world request endpoint) := by
  unfold serveEndpoint
  cases endpoint with
  | health =>
      simp only [alike.issue]
      rfl
  | readiness =>
      simp only [alike.board]
      rfl
  | history =>
      simp only [alike.board, alike.settings, alike.of_window]
      exact alike.serve_run _
  | filter =>
      simp only [alike.board, alike.settings, alike.search]
      exact alike.serve_run _
  | metrics => rfl

theorem route (world : World) (request : Request) :
    Web.route other (image world) request = Prod.map image id (Web.route site world request) := by
  unfold Web.route
  cases Endpoint.ofPath? request.path with
  | some endpoint =>
      simp only
      split_ifs
      · exact alike.serve_endpoint world request endpoint
      · rfl
  | none =>
      simp only
      split_ifs <;> rfl

theorem serve (world : World) (request : Request) :
    Web.serve other (image world) request = Prod.map image id (Web.serve site world request) := by
  unfold Web.serve
  rw [alike.route, alike.settings]
  cases request.header? "origin" with
  | none => rfl
  | some origin =>
      simp only
      split <;> rfl

end Alike

def constantly (board : Board Time) : Patterned Time := ⟨board, fun _ => board.conditions⟩

theorem issue_conditions (deadline : Option Time) (command : Command) (board : Board Time) :
    (board.issue deadline command).1.conditions = board.conditions := by
  unfold Board.issue
  cases deadline with
  | none => rfl
  | some limit =>
      simp only
      split_ifs <;> rfl

theorem board_alike (settings : SiteSettings Time) :
    Alike (siteOf settings) (patternedSite settings) constantly where
  settings := rfl
  clock _ := rfl
  store _ := rfl
  budget _ := rfl
  issue deadline command board := by
    have kept := issue_conditions deadline command board
    change ((⟨(board.issue deadline command).1, fun _ => board.conditions⟩ : Patterned Time),
      (board.issue deadline command).2) = (constantly (board.issue deadline command).1, _)
    rw [constantly, kept]
    rfl
  board _ := rfl
  count _ _ := rfl

/-- A board answers as it does where each command meets the same conditions. -/
theorem serve_board (settings : SiteSettings Time) (board : Board Time) (request : Request) :
    (serve (patternedSite settings) (constantly board) request).2 =
      (serve (siteOf settings) board request).2 := by
  rw [(board_alike settings).serve]
  rfl

/-! ### What serving keeps

A site's world changes only by issuing commands and by counting. -/

section

variable {Keeps : World → Prop} {site : Site Time World} {world : World}
  (issues : ∀ deadline command world, Keeps world → Keeps (site.host.issue deadline command world).1)
  (counts : ∀ metrics world, Keeps world → Keeps (site.count metrics world))
  (kept : Keeps world)
include issues counts kept

theorem serve_endpoint_keeps (request : Request) (endpoint : Endpoint) :
    Keeps (serveEndpoint site world request endpoint).1 := by
  cases endpoint with
  | health => exact issues none .ping world kept
  | readiness => exact kept
  | history => exact counts _ _ (History.of_window_keeps issues kept _ _ _)
  | filter => exact counts _ _ (History.search_keeps issues kept _ _ _ _ _)
  | metrics => exact kept

theorem route_keeps (request : Request) : Keeps (route site world request).1 := by
  unfold route
  cases Endpoint.ofPath? request.path with
  | some endpoint =>
      dsimp only
      split
      · exact serve_endpoint_keeps issues counts kept request endpoint
      · exact kept
  | none =>
      dsimp only
      split
      · exact kept
      · exact kept

theorem serve_keeps (request : Request) : Keeps (serve site world request).1 := by
  unfold serve
  cases request.header? "origin" with
  | none => exact route_keeps issues counts kept request
  | some origin =>
      dsimp only
      split
      · exact kept
      · exact route_keeps issues counts kept request

end

end PriceBoard.Web
