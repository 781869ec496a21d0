import PriceBoard.Proofs.Board.Patterns
import PriceBoard.Proofs.Store.Filled
import PriceBoard.Web.Serve

/-!
# Answers to history requests

A request for the history calls the store within its time limit. Three things can become of the call, and
each has a response: the snapshots it finds, a failure of the store, or the end of the time.
-/
namespace PriceBoard.Web

variable {Time : Type} [Timeline Time]

def patternedSite (settings : SiteSettings Time) : Site Time (Patterned Time) where
  settings
  host := Patterned.host
  board := fun world => world.board
  count := fun metrics world => { world with board := world.board.count metrics }

/-- The status and the body of a response, whichever pages may read it. -/
def content (result : Except Fault Response) : Except Fault (ℕ × Body) :=
  result.map fun response => (response.status, response.body)

def Returns (result : Except Fault Response) (response : Response) : Prop :=
  content result = .ok (response.status, response.body)

def HasStatus (result : Except Fault Response) (status : ℕ) : Prop :=
  ∃ body, content result = .ok (status, body)

def storageFailure : Response := .failure 500 "error" "Failed to read history"

def timeFailure : Response := .failure 504 "error" "Query timed out"

def malformedFailure : Response := .failure 400 "error" "Malformed query"

def foundResponse (snapshots : List Snapshot) : Response :=
  .json 200 (.array (snapshots.map Snapshot.wire))

theorem error_of_content {result : Except Fault Response} {fault : Fault}
    (failed : content result = .error fault) : result = .error fault := by
  cases result with
  | ok response => cases failed
  | error other =>
      cases failed
      rfl

/-! ### Routing -/

theorem serve_get {World : Type} (site : Site Time World) (world : World) {request : Request}
    {endpoint : Endpoint} (isGet : request.method = "GET")
    (isPath : Endpoint.ofPath? request.path = some endpoint) :
    (serve site world request).1 = (serveEndpoint site world request endpoint).1 ∧
      content (serve site world request).2 =
        content (serveEndpoint site world request endpoint).2 := by
  have routed : route site world request = serveEndpoint site world request endpoint := by
    rw [route, isPath]
    exact if_pos isGet
  rw [serve]
  cases request.header? "origin" with
  | none => exact ⟨congrArg Prod.fst routed, congrArg (content ∘ Prod.snd) routed⟩
  | some origin =>
      rw [isGet, routed]
      refine ⟨rfl, ?_⟩
      change content (Except.map _ (serveEndpoint site world request endpoint).2) = _
      cases (serveEndpoint site world request endpoint).2 <;> rfl

/-! ### What a call answers -/

def callAnswer (found : List Snapshot) : Issued → Except Fault Response
  | .answered => wires found
  | .refused _ => .ok storageFailure
  | .outOfTime => .ok timeFailure

theorem wires_finite {found : List Snapshot} (finite : ∀ snapshot ∈ found, snapshot.FiniteValues) :
    wires found = .ok (foundResponse found) := by
  have all : (found.all fun snapshot => snapshot.values.all (·.2.isFinite)) = true :=
    List.all_eq_true.mpr fun snapshot member => List.all_eq_true.mpr (finite snapshot member)
  exact if_pos all

theorem status_unique {result : Except Fault Response} {response : Response} {status : ℕ}
    (returns : Returns result response) (has : HasStatus result status) :
    status = response.status := by
  obtain ⟨body, answered⟩ := has
  rw [Returns, answered, Except.ok.injEq, Prod.mk.injEq] at returns
  exact returns.1

theorem has_status_iff {result : Except Fault Response} {status : ℕ} (has : HasStatus result status)
    (other : ℕ) : HasStatus result other ↔ other = status := by
  constructor
  · rintro ⟨otherBody, otherAnswer⟩
    obtain ⟨body, answer⟩ := has
    rw [answer, Except.ok.injEq, Prod.mk.injEq] at otherAnswer
    exact otherAnswer.1.symm
  · rintro rfl
    exact has

/-- Snapshots are found, or one of their values has no place in a body. -/
theorem wires_returns {found : List Snapshot} {status : ℕ} (has : HasStatus (wires found) status) :
    Returns (wires found) (foundResponse found) := by
  unfold wires at has ⊢
  split_ifs at has ⊢
  · exact rfl
  · obtain ⟨_, answered⟩ := has
    cases answered

theorem call_returns (found : List Snapshot) {issued : Issued} {status : ℕ}
    (has : HasStatus (callAnswer found issued) status) :
    (issued = .answered ∧ Returns (callAnswer found issued) (foundResponse found)) ∨
      ((∃ message, issued = .refused message) ∧ Returns (callAnswer found issued) storageFailure) ∨
      (issued = .outOfTime ∧ Returns (callAnswer found issued) timeFailure) := by
  cases issued with
  | answered => exact .inl ⟨rfl, wires_returns has⟩
  | refused message => exact .inr (.inl ⟨⟨message, rfl⟩, rfl⟩)
  | outOfTime => exact .inr (.inr ⟨rfl, rfl⟩)

theorem call_failed_iff (found : List Snapshot) (issued : Issued) :
    HasStatus (callAnswer found issued) 500 ↔ ∃ message, issued = .refused message := by
  constructor
  · intro has
    rcases call_returns found has with ⟨_, returns⟩ | ⟨refused, _⟩ | ⟨_, returns⟩
    · exact nomatch (status_unique returns has : 500 = 200)
    · exact refused
    · exact nomatch (status_unique returns has : 500 = 504)
  · rintro ⟨message, rfl⟩
    exact ⟨storageFailure.body, rfl⟩

theorem call_expired_iff (found : List Snapshot) (issued : Issued) :
    HasStatus (callAnswer found issued) 504 ↔ issued = .outOfTime := by
  constructor
  · intro has
    rcases call_returns found has with ⟨_, returns⟩ | ⟨_, returns⟩ | ⟨late, _⟩
    · exact nomatch (status_unique returns has : 504 = 200)
    · exact nomatch (status_unique returns has : 504 = 500)
    · exact late
  · rintro rfl
    exact ⟨timeFailure.body, rfl⟩

theorem call_finite {found : List Snapshot} (finite : ∀ snapshot ∈ found, snapshot.FiniteValues)
    (issued : Issued) : ∃ status, HasStatus (callAnswer found issued) status := by
  cases issued with
  | answered => exact ⟨200, (foundResponse found).body, by rw [callAnswer, wires_finite finite]; rfl⟩
  | refused message => exact ⟨500, storageFailure.body, rfl⟩
  | outOfTime => exact ⟨504, timeFailure.body, rfl⟩

variable {settings : SiteSettings Time} {deadline : Deadline Time} {world : Patterned Time}
  {progress : Progress} {found : List Snapshot}

theorem serve_call (positive : 0 < deadline.limit) (kind : QueryKind)
    (ends : progress.outcome world.board.store (2 * world.board.store.index.length + 2) =
      .found found) :
    (serveRun (patternedSite settings) (History.call Patterned.host kind world (some deadline)
      (.ok progress))).2 = callAnswer found (world.fate deadline progress) := by
  rw [serveRun, Patterned.call_answer positive kind ends]
  cases world.fate deadline progress <;> rfl

structure Answered (deadline : Deadline Time) (world : Patterned Time) (progress : Progress)
    (found : List Snapshot) (result : Except Fault Response) : Prop where
  inTime : world.Timely deadline progress → content result = content (wires found)
  failed : HasStatus result 500 ↔ world.FailsInTime deadline progress
  expired : HasStatus result 504 ↔ world.Expires deadline progress
  only : ∀ status, HasStatus result status → Returns result (foundResponse found) ∨
    Returns result storageFailure ∨ Returns result timeFailure
  finite : (∀ snapshot ∈ found, snapshot.FiniteValues) → ∃ status, HasStatus result status

theorem answered_of_fate {result : Except Fault Response}
    (same : content result = content (callAnswer found (world.fate deadline progress))) :
    Answered deadline world progress found result := by
  have statuses (status : ℕ) : HasStatus result status ↔
      HasStatus (callAnswer found (world.fate deadline progress)) status := by
    rw [HasStatus, same, HasStatus]
  have returns (response : Response) : Returns result response ↔
      Returns (callAnswer found (world.fate deadline progress)) response := by
    rw [Returns, same, Returns]
  refine ⟨fun timely => ?_, ?_, ?_, fun status has => ?_, fun finite => ?_⟩
  · have answers : world.fate deadline progress = .answered := Pattern.fate_answered_iff.mpr timely
    rw [same, answers, callAnswer]
  · rw [statuses, call_failed_iff]
    exact Pattern.fate_refused_iff
  · rw [statuses, call_expired_iff]
    exact Pattern.fate_out_of_time_iff
  · simp only [returns]
    rcases call_returns found ((statuses status).mp has) with ⟨_, wires⟩ | ⟨_, failed⟩ | ⟨_, late⟩
    · exact .inl wires
    · exact .inr (.inl failed)
    · exact .inr (.inr late)
  · obtain ⟨status, has⟩ := call_finite finite (world.fate deadline progress)
    exact ⟨status, (statuses status).mpr has⟩

namespace Answered

variable {result : Except Fault Response} (answered : Answered deadline world progress found result)
include answered

theorem status_mem {status : ℕ} (has : HasStatus result status) : status ∈ [200, 500, 504] := by
  rcases answered.only status has with returns | returns | returns
  · obtain rfl : status = 200 := status_unique returns has
    decide
  · obtain rfl : status = 500 := status_unique returns has
    decide
  · obtain rfl : status = 504 := status_unique returns has
    decide

theorem returns_found (has : HasStatus result 200) : Returns result (foundResponse found) := by
  rcases answered.only 200 has with returns | returns | returns
  · exact returns
  · exact nomatch (status_unique returns has : 200 = 500)
  · exact nomatch (status_unique returns has : 200 = 504)

end Answered

end PriceBoard.Web
