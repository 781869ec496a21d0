import PriceBoard.Proofs.Board.Steps
import Mathlib.Tactic.FinCases

/-!
# The quotes after a run

Whatever else a run does, its reports alone decide whether the quotes are complete and what they show.
-/
namespace PriceBoard.Board

variable {Time : Type} [Timeline Time]

theorem start_reflects (settings : BoardSettings) (feeds : List String) (now : DateTime)
    (steps : List (Step Time)) :
    ((start settings feeds now : Board Time).run steps).1.quotes.Reflects feeds (reports steps) :=
  @run_reflects _ _ (start settings feeds now) _ [] (Feed.reflects_empty feeds) steps

structure Takes (board : Board Time) (step : Step Time) (feed : String) : Prop where
  known : feed ∈ board.quotes.feeds → (board.step step).2 = .ok (.flag true)
  unknown : feed ∉ board.quotes.feeds → board.step step = (board, .ok (.flag false))

theorem takes_update (board : Board Time) (feed : String) (value : Float) (time : Option DateTime) :
    board.Takes (.update feed value time) feed := by
  constructor
  · intro known
    simp only [step, update, Feed.update_known known]
  · intro unknown
    simp only [step, update, Feed.update_unknown unknown]

theorem takes_report (board : Board Time) {step : Step Time} {feed : String} {value : Float}
    (report : step.report? = some (feed, value)) : board.Takes step feed := by
  cases step with
  | update other given time =>
      cases report
      exact takes_update board feed value time
  | message other payload =>
      obtain ⟨trade, read, rfl, rfl⟩ := trade_of_report report
      have taken := takes_update board other trade.price trade.time
      have same : board.step (.message other payload) =
          board.step (.update other trade.price trade.time) := by
        change ((board.message other payload).1,
          (((board.message other payload).2.map Reply.flag).mapError BoardError.trade)) = _
        rw [message_of_trade read]
        rfl
      constructor
      · rw [same]
        exact taken.known
      · rw [same]
        exact taken.unknown
  | _ => cases report

/-- After any run the quotes show what its steps have reported, and a value is taken exactly for a
configured feed. -/
theorem quotes_show_reports (settings : BoardSettings) {feeds : List String} (distinct : feeds.Nodup)
    (now : DateTime) (steps : List (Step Time)) :
    (∃ complete, ((start settings feeds now : Board Time).run steps).1.quotes.Shows feeds
      (reports steps) complete) ∧
    ∀ (step : Step Time) (feed : String) (value : Float), step.report? = some (feed, value) →
      (feed ∈ feeds → (((start settings feeds now).run steps).1.step step).2 = .ok (.flag true)) ∧
      (feed ∉ feeds → ((start settings feeds now).run steps).1.step step =
        (((start settings feeds now).run steps).1, .ok (.flag false))) := by
  have reflects := start_reflects settings feeds now steps
  constructor
  · exact Feed.exists_shown reflects distinct
  · intro step feed value report
    have takes := takes_report ((start settings feeds now).run steps).1 report
    have known := takes.known
    have unknown := takes.unknown
    rw [reflects.sameFeeds] at known unknown
    exact ⟨known, unknown⟩

/-- A message, a feed that is not configured, and a report with an earlier time than the one before it. -/
def mixedReports : List (Step Rat) := [
  .update "ether" 2.5 (some ⟨⟨63840000001000000, by decide⟩, some Offset.utc⟩),
  .message "bitcoin" (.text "\x7b\"p\": \"inf\"\x7d"),
  .update "doge" 7.5 none,
  .update "ether" 3.5 (some ⟨⟨63840000000000000, by decide⟩, some Offset.utc⟩)]

theorem mixed_reports_eq : reports mixedReports =
    [("ether", 2.5), ("bitcoin", Decimal.infinity), ("doge", 7.5), ("ether", 3.5)] := by
  have trade : Feed.readTrade (.text "\x7b\"p\": \"inf\"\x7d") =
      .ok (some ⟨Decimal.infinity, none⟩) := by
    decide +kernel
  simp only [reports, mixedReports, List.filterMap_cons, Step.report?, trade, List.filterMap_nil]

theorem quotes_show_reports_out_of_order :
    ["bitcoin", "ether"].Nodup ∧ ∃ board : Board Rat,
      board = ((start ⟨60, 500, 1000⟩ ["bitcoin", "ether"] ⟨⟨0, by decide⟩, none⟩).run
        mixedReports).1 ∧
      (∃ values, board.quotes.Shows ["bitcoin", "ether"]
        [("ether", 2.5), ("bitcoin", Decimal.infinity), ("doge", 7.5), ("ether", 3.5)]
        (some values)) ∧
      (board.step (.update "ether" 0.5 none)).2 = .ok (.flag true) ∧
      board.step (.update "doge" 0.5 none) = (board, .ok (.flag false)) := by
  have distinct : ["bitcoin", "ether"].Nodup := by decide
  obtain ⟨⟨complete, shows⟩, takes⟩ := quotes_show_reports ⟨60, 500, 1000⟩ distinct
    ⟨⟨0, by decide⟩, none⟩ mixedReports
  rw [mixed_reports_eq] at shows
  refine ⟨distinct, _, rfl, ?_, ?_, ?_⟩
  · cases complete with
    | none =>
        obtain ⟨feed, configured, silent⟩ := shows.incomplete.mp rfl
        fin_cases configured <;> simp [names] at silent
    | some values => exact ⟨values, shows⟩
  · exact (takes (.update "ether" 0.5 none) "ether" 0.5 rfl).1 (by decide)
  · exact (takes (.update "doge" 0.5 none) "doge" 0.5 rfl).2 (by decide)

end PriceBoard.Board
