import PriceBoard.Proofs.Query.RoundTrip
import PriceBoard.Proofs.Query.Awareness
import PriceBoard.Proofs.Web.Answers

/-!
# Requests for what a text describes

Every text is answered: a text that is malformed is refused, and any other leads to a search that ends in
snapshots, in a failure of the store or with its time limit. Nothing else comes out of compiling, of
searching or of loading.
-/
namespace PriceBoard

variable {Time : Type} [Timeline Time]

def Board.searchCall (board : Board Time) (query : String) : Progress :=
  match History.compile board.context query with
  | .error _ => .done []
  | .ok predicate =>
    match Reading.matching predicate board.settings.limit board.settings.batch with
    | .error _ => .done []
    | .ok progress => progress

namespace Web

structure FilterAnswer (deadline : Deadline Time) (world : Patterned Time) (query : String)
    (result : Except Fault Response) : Prop where
  controlled : ∃ status ∈ [200, 400, 500, 504], ∀ other, HasStatus result other ↔ other = status
  found : HasStatus result 200 → ∃ snapshots, Returns result (foundResponse snapshots) ∧
    (snapshots.length : ℤ) ≤ world.board.settings.limit ∧
    snapshots.Pairwise fun newer older => older.timestamp.instant < newer.timestamp.instant
  malformed : HasStatus result 400 ↔ ∃ error, History.compile world.board.context query = .error error
  unchanged : ∀ error, History.compile world.board.context query = .error error →
    ∃ cause, error = .malformed ⟨query.toList, cause⟩
  failed : HasStatus result 500 ↔ world.FailsInTime deadline (world.board.searchCall query)
  expired : HasStatus result 504 ↔ world.Expires deadline (world.board.searchCall query)

variable {settings : SiteSettings Time} {deadline : Deadline Time} {world : Patterned Time}
  {request : Request} {query : String} {predicate : Predicate}

/-! ### Compiling -/

theorem compile_error_unchanged {context : Query.Context} {error : HistoryError}
    (refused : History.compile context query = .error error) :
    ∃ cause, error = .malformed ⟨query.toList, cause⟩ := by
  unfold History.compile at refused
  cases compiled : Query.compile context query.toList with
  | ok predicate =>
      rw [compiled] at refused
      cases refused
  | error malformed =>
      rw [compiled] at refused
      cases refused
      refine ⟨malformed.cause, ?_⟩
      rw [← Query.compile_error_query compiled]

omit [Timeline Time] in
theorem refused_call {error : HistoryError}
    (refused : History.compile world.board.context query = .error error) :
    world.board.searchCall query = .done [] := by
  rw [Board.searchCall, refused]

omit [Timeline Time] in
theorem compiled_call {progress : Progress}
    (compiled : History.compile world.board.context query = .ok predicate)
    (begins : Reading.matching predicate world.board.settings.limit world.board.settings.batch =
      .ok progress) : world.board.searchCall query = progress := by
  rw [Board.searchCall, compiled]
  simp only [begins]

/-! ### Searching -/

def searchRun (deadline : Deadline Time) (world : Patterned Time) (query : String) : History.Run (Patterned Time) :=
  History.search Patterned.host world.board.context world.board.settings.limit
    world.board.settings.batch world query (some deadline)

theorem search_refused {error : HistoryError}
    (refused : History.compile world.board.context query = .error error) :
    Returns (serveRun (patternedSite settings) (searchRun deadline world query)).2 malformedFailure := by
  obtain ⟨cause, rfl⟩ := compile_error_unchanged refused
  rw [searchRun, History.search, refused]
  rfl

/-- A search that is compiled calls the store, or else finds nothing at once. -/
theorem search_compiled (positive : 0 < deadline.limit)
    (compiled : History.compile world.board.context query = .ok predicate) {dead : Bool}
    (checked : predicate.contradictory = .ok dead) {found : List Snapshot}
    (ends : (world.board.searchCall query).outcome world.board.store
      (2 * world.board.store.index.length + 2) = .found found)
    (begins : Reading.matching predicate world.board.settings.limit world.board.settings.batch =
      .ok (world.board.searchCall query)) :
    (serveRun (patternedSite settings) (searchRun deadline world query)).2 =
      callAnswer found (world.fate deadline (world.board.searchCall query)) := by
  rw [searchRun, History.search, compiled]
  simp only [checked]
  cases dead with
  | true =>
      rw [Reading.begin_dead checked, Except.ok.injEq] at begins
      rw [← begins] at ends ⊢
      cases ends
      rfl
  | false =>
      simp only [begins]
      exact serve_call positive .predicate ends

/-! ### Both ways to answer -/

theorem refused_answer {result : Except Fault Response} {error : HistoryError}
    (refused : History.compile world.board.context query = .error error)
    (returns : Returns result malformedFailure) : FilterAnswer deadline world query result := by
  have has : HasStatus result 400 := ⟨malformedFailure.body, returns⟩
  have nothing := refused_call refused
  constructor
  · exact ⟨400, by decide, has_status_iff has⟩
  · exact fun found => nomatch (status_unique returns found : 200 = 400)
  · exact ⟨fun _ => ⟨error, refused⟩, fun _ => has⟩
  · exact fun other same => compile_error_unchanged same
  · rw [nothing]
    constructor
    · exact fun failed => nomatch (status_unique returns failed : 500 = 400)
    · exact fun fails => nomatch (Pattern.fate_refused_iff.mpr fails).choose_spec
  · rw [nothing]
    constructor
    · exact fun expired => nomatch (status_unique returns expired : 504 = 400)
    · exact fun expires => nomatch Pattern.fate_out_of_time_iff.mpr expires

theorem compiled_answer {result : Except Fault Response} {found : List Snapshot}
    (compiled : History.compile world.board.context query = .ok predicate)
    (answered : Answered deadline world (world.board.searchCall query) found result)
    (finite : ∀ snapshot ∈ found, snapshot.FiniteValues)
    (limited : (found.length : ℤ) ≤ world.board.settings.limit)
    (descending : found.Pairwise fun newer older =>
      older.timestamp.instant < newer.timestamp.instant) :
    FilterAnswer deadline world query result := by
  constructor
  · obtain ⟨status, has⟩ := answered.finite finite
    have statuses : [200, 500, 504].Sublist [200, 400, 500, 504] := by decide
    exact ⟨status, statuses.subset (answered.status_mem has), has_status_iff has⟩
  · exact fun has => ⟨found, answered.returns_found has, limited, descending⟩
  · rw [compiled]
    constructor
    · exact fun has => absurd (answered.status_mem has) (by decide)
    · rintro ⟨error, refused⟩
      cases refused
  · exact fun error refused => nomatch compiled.symm.trans refused
  · exact answered.failed
  · exact answered.expired

/-- Every text is answered in a controlled way. -/
theorem filter_answers_every_text (isGet : request.method = "GET")
    (isPath : request.path = "/api/filter")
    (positive : 0 < settings.deadline.limit)
    (aware : world.board.now.isAware = true) (filled : world.board.store.Filled)
    (limit : 0 ≤ world.board.settings.limit) :
    FilterAnswer settings.deadline world ((request.param? "query").getD "")
      (serve (patternedSite settings) world request).2 := by
  have routed : Endpoint.ofPath? request.path = some .filter := by
    rw [isPath]
    rfl
  generalize queryIs : (request.param? "query").getD "" = query
  have served : content (serve (patternedSite settings) world request).2 =
      content (serveRun (patternedSite settings) (searchRun settings.deadline world query)).2 := by
    rw [← queryIs]
    exact (serve_get (patternedSite settings) world isGet routed).2
  cases compiled : History.compile world.board.context query with
  | error error =>
      apply refused_answer compiled
      rw [Returns, served]
      exact search_refused compiled
  | ok predicate =>
      have wellformed := Store.reachable_wellformed (Store.filled_reachable filled)
      have predicateAware := Query.compile_aware aware (ok_of_map_error compiled)
      obtain ⟨dead, checked⟩ := (@Predicate.sound_of_aware ⟨⟨0, by decide⟩, []⟩ predicate
        predicateAware).checked
      obtain ⟨progress, found, begins, ends, length, high, low, sublist⟩ :=
        Reading.matching_ends wellformed predicateAware world.board.settings.limit
          world.board.settings.batch
      have call := compiled_call compiled begins
      rw [← call] at begins ends
      have answer := served.trans
        (congrArg content (search_compiled positive compiled checked ends begins))
      have finite := Store.snapshots_finite filled fun entry member =>
        @Index.mem_of_mem_slice world.board.store.index high low entry member
      apply compiled_answer compiled (answered_of_fate answer)
      · exact fun snapshot member => finite snapshot (sublist.subset member)
      · omega
      · exact (Store.slice_found_descending wellformed high low).sublist sublist

def textRequest (query : String) : Request := ⟨"GET", "/api/filter", [("query", query)], []⟩

/-- A board of one snapshot whose index cannot be read. -/
def brokenWorld : Patterned Rat :=
  ⟨{ Board.start ⟨3600, 500, 1000⟩ ["bitcoin"] ⟨⟨63840000069000000, by decide⟩, some Offset.utc⟩ with
      store := Store.afterInsert 3600 Store.empty
        ⟨⟨⟨63840000009000000, by decide⟩, [("bitcoin", 1.5)]⟩, some "no trim"⟩ },
    fun _ => Conditions.calm.withFailure .descending (some "no index")⟩

theorem broken_world_filled : brokenWorld.board.store.Filled :=
  .insert 3600 ⟨⟨⟨63840000009000000, by decide⟩, [("bitcoin", 1.5)]⟩, some "no trim"⟩ (by decide)
    (fun entry member => by rw [List.mem_singleton.mp member]; decide) .empty

theorem last_hours_compiled {context : Query.Context}
    (reaches : 2 * Query.SpanUnit.hour.ms * 1000 ≤ context.now.wall.micros) :
    History.compile context "timestamp within last 2 hours" = .ok (.any [.timeWithinLast
      (Query.ago context.now (2 * Query.SpanUnit.hour.ms * 1000))]) := by
  have clauses : Query.split "timestamp within last 2 hours".toList =
      [["timestamp within last 2 hours".toList]] := by decide +kernel
  have recognised : Query.recognise? Query.Rule.all (Text.lowercase (Text.trim
      "timestamp within last 2 hours".toList)) = some (.withinLast ['2'] .hour) := by decide +kernel
  have cutoff := @Query.cutoff_ago context ['2'] .hour 2 rfl reaches
  rw [History.compile, Query.compile, clauses]
  simp only [Query.readGroups, Query.readClauses, Query.readClause, recognised,
    Query.Phrase.predicate, cutoff]
  rfl

theorem broken_search : ∃ scan,
    brokenWorld.board.searchCall "timestamp within last 2 hours" = .more (.scanIndex scan) := by
  have compiled := @last_hours_compiled brokenWorld.board.context (by decide)
  generalize Query.ago brokenWorld.board.context.now (2 * Query.SpanUnit.hour.ms * 1000) = cutoff
    at compiled
  exact ⟨_, compiled_call compiled (@Reading.begin_scan (.any [.timeWithinLast cutoff]) rfl 1000
    (by decide) _ rfl 500)⟩

theorem filter_answers_every_text_broken :
    HasStatus (serve (patternedSite .standard) brokenWorld (textRequest "timestamp within last 2 hours")).2
      500 := by
  have answer := @filter_answers_every_text Rat _ .standard brokenWorld
    (textRequest "timestamp within last 2 hours") rfl rfl (by decide) rfl broken_world_filled (by decide)
  obtain ⟨scan, call⟩ := broken_search
  apply answer.failed.mpr
  have first : (brokenWorld.needed (.more (.scanIndex scan))).head? = some .descending := rfl
  obtain ⟨rest, needed⟩ := List.head?_eq_some_iff.mp first
  change brokenWorld.FailsInTime SiteSettings.standard.deadline
    (brokenWorld.board.searchCall "timestamp within last 2 hours")
  rw [call, Patterned.FailsInTime, needed, Pattern.fails_in_time_cons]
  refine ⟨?_, .inl ⟨_, rfl⟩⟩
  rintro ⟨limit, isLimit, late⟩
  cases isLimit
  apply late
  change (if (0 : ℚ) < 0 then 0 + 0 else 0) < (0 + 10 : ℚ)
  norm_num

end Web
end PriceBoard
