import PriceBoard.Board.Listening
import PriceBoard.Proofs.Board.LiveMessages
import PriceBoard.Proofs.Feed.Stream

/-!
# Listening to a stream that reconnects

A board that listens to a stream shows the price of the last trade among the messages received so far,
whichever connections they came over.
-/
namespace PriceBoard

open Feed (Activity Attempt Payload Stream.activities)

def Feed.usable? (payload : Payload) : Option Trade :=
  match readTrade payload with
  | .ok trade => trade
  | .error _ => none

namespace Board

def trades {Time : Type} (activities : List (Time × Activity Time)) : List Feed.Trade :=
  (Feed.payloads activities).filterMap Feed.usable?

theorem last_trade_cons {Time : Type} (entry : Time × Activity Time)
    (activities : List (Time × Activity Time)) :
    (trades (entry :: activities)).getLast? =
      (trades activities).getLast?.or (entry.2.payload?.bind Feed.usable?) := by
  have joined : trades (entry :: activities) =
      (entry.2.payload?.bind Feed.usable?).toList ++ trades activities := by
    rw [trades, trades, Feed.payloads, Feed.payloads, List.filterMap_filterMap,
      List.filterMap_filterMap, filter_map_cons]
  rw [joined, List.getLast?_append]
  cases entry.2.payload?.bind Feed.usable? <;> rfl

variable {Time : Type} [Timeline Time]

theorem message_feeds (board : Board Time) (feed : String) (payload : Payload) :
    (board.message feed payload).1.quotes.feeds = board.quotes.feeds :=
  step_feeds board (.message feed payload)

theorem message_value (board : Board Time) {feed : String} (configured : feed ∈ board.quotes.feeds)
    (payload : Payload) :
    ((board.message feed payload).1.quotes.quote? feed).map (·.value) =
      ((Feed.usable? payload).map (·.price)).or ((board.quotes.quote? feed).map (·.value)) := by
  have handled := message_handled board configured payload
  change Handled feed payload board (board.message feed payload).1 _ at handled
  unfold Feed.usable?
  generalize (board.message feed payload).1 = after at handled
  generalize (board.step (.message feed payload)).2 = reply at handled
  cases handled with
  | updated trade read latest others counted =>
      rw [read, latest]
      rfl
  | dropped read unchanged counted =>
      rw [read, unchanged]
      rfl
  | escaped error read oversized unchanged =>
      rw [read, unchanged]
      rfl

/-- What is heard of an activity changes the quotes only by the message that was received. -/
theorem hear_value (board : Board Time) {feed : String} (configured : feed ∈ board.quotes.feeds)
    (activity : Activity Time) :
    (board.hear feed activity).1.quotes.feeds = board.quotes.feeds ∧
      ((board.hear feed activity).1.quotes.quote? feed).map (·.value) =
        ((activity.payload?.bind Feed.usable?).map (·.price)).or
          ((board.quotes.quote? feed).map (·.value)) := by
  cases activity with
  | received payload => exact ⟨message_feeds board feed payload, message_value board configured payload⟩
  | connecting => exact ⟨rfl, rfl⟩
  | connected => exact ⟨rfl, rfl⟩
  | disconnected => exact ⟨rfl, rfl⟩
  | pausing pause => exact ⟨rfl, rfl⟩

theorem move_to_quotes (board : Board Time) (opening : DateTime) (clock : Time) :
    (board.moveTo opening clock).quotes = board.quotes := by
  unfold moveTo
  cases opening.plusMicros (Timeline.micros clock) <;> rfl

theorem listen_value (board : Board Time) (opening : DateTime) {feed : String}
    (configured : feed ∈ board.quotes.feeds) (activities : List (Time × Activity Time)) :
    ((board.listen opening feed activities).1.quotes.quote? feed).map (·.value) =
      ((trades activities).getLast?.map (·.price)).or ((board.quotes.quote? feed).map (·.value)) := by
  induction activities generalizing board with
  | nil => rfl
  | cons entry activities induction =>
      obtain ⟨clock, activity⟩ := entry
      have moved := move_to_quotes board opening clock
      obtain ⟨feeds, value⟩ := hear_value (board.moveTo opening clock) (by rwa [moved]) activity
      have others := induction ((board.moveTo opening clock).hear feed activity).1
        (by rwa [feeds, moved])
      change ((((board.moveTo opening clock).hear feed activity).1.listen opening feed
        activities).1.quotes.quote? feed).map (·.value) = _
      rw [others, value, moved, ← Option.or_assoc, last_trade_cons, Option.map_or]

/-- A stream goes on through all attempts that end, one pause after each. A pause starts from the initial
one whenever a connection has opened and doubles from then on. Whatever part of the stream was heard, the
feed's quote has the price of the last trade in it. -/
theorem listens_across_reconnects {backoff : Backoff ℚ} (initial : 0 ≤ backoff.initial)
    (capped : 0 ≤ backoff.cap) {attempts : List (Attempt ℚ)}
    (ended : ∀ attempt ∈ attempts, attempt.Ends) (clock : ℚ) (board : Board ℚ) (opening : DateTime)
    {feed : String} (configured : feed ∈ board.quotes.feeds) :
    Feed.turns (Stream.activities backoff clock attempts) =
        attempts.flatMap (·.turns) ++ [.attempt, .opening] ∧
      (∀ before time pause rest,
        Stream.activities backoff clock attempts = before ++ (time, .pausing pause) :: rest →
          pause = backoff.after (Feed.pausesSinceOpening before) ∧
            ∃ later, rest = (time + pause, .connecting) :: later) ∧
      (∀ more, (Stream.activities backoff clock attempts).dropLast <+:
        Stream.activities backoff clock (attempts ++ more)) ∧
      Feed.payloads (Stream.activities backoff clock attempts) = attempts.flatMap (·.handled) ∧
      ∀ heard, heard <+: Stream.activities backoff clock attempts →
        ((board.listen opening feed heard).1.quotes.quote? feed).map (·.value) =
          (((Feed.payloads heard).filterMap Feed.usable?).getLast?.map (·.price)).or
            ((board.quotes.quote? feed).map (·.value)) := by
  obtain ⟨turns, payloads⟩ := Feed.Stream.follow_in_order capped ended clock 0
  refine ⟨turns, ?_, ?_, payloads, ?_⟩
  · intro before time pause rest found
    exact Feed.Stream.follow_pause initial capped ended clock 0 found
  · exact Feed.Stream.follow_continues capped ended clock 0
  · intro heard _
    exact listen_value board opening configured heard

/-- Two attempts are refused. A connection then brings a trade and a message that ends it. -/
def flakyAttempts : List (Attempt ℚ) :=
  [.refused, .refused,
    .opened [⟨1, zeroTrade⟩, ⟨1, inNanoseconds⟩, ⟨1, .text "[]"⟩] .closed, .refused]

theorem flaky_attempts_end : ∀ attempt ∈ flakyAttempts, attempt.Ends := by
  simp [flakyAttempts, Attempt.Ends]

theorem flaky_attempts_handled :
    flakyAttempts.flatMap (·.handled) = [zeroTrade, inNanoseconds] := by
  obtain ⟨error, escapes⟩ := (Feed.read_trade_error_iff _).mpr in_nanoseconds_oversized
  simp [flakyAttempts, Attempt.handled, Feed.handled, zero_trade_read, escapes]

theorem listens_across_reconnects_to_zero_trade :
    (0 : ℚ) ≤ 1 ∧ (0 : ℚ) ≤ 30 ∧ (∀ attempt ∈ flakyAttempts, attempt.Ends) ∧
      "bitcoin" ∈ bitcoinBoard.quotes.feeds ∧
      Feed.turns (Stream.activities ⟨1, 30⟩ 0 flakyAttempts) =
        [.attempt, .pause, .attempt, .pause, .attempt, .opening, .pause, .attempt, .pause, .attempt,
          .opening] ∧
      ((bitcoinBoard.listen bitcoinBoard.now "bitcoin"
        (Stream.activities ⟨1, 30⟩ 0 flakyAttempts)).1.quotes.quote? "bitcoin").map (·.value) =
          some 0.0 := by
  have initial : (0 : ℚ) ≤ 1 := by norm_num
  have capped : (0 : ℚ) ≤ 30 := by norm_num
  have configured : "bitcoin" ∈ bitcoinBoard.quotes.feeds := List.mem_singleton_self _
  obtain ⟨turns, _, _, payloads, heard⟩ := @listens_across_reconnects ⟨1, 30⟩ initial capped
    flakyAttempts flaky_attempts_end 0 bitcoinBoard bitcoinBoard.now "bitcoin" configured
  refine ⟨initial, capped, flaky_attempts_end, configured, turns, ?_⟩
  obtain ⟨error, escapes⟩ := (Feed.read_trade_error_iff _).mpr in_nanoseconds_oversized
  rw [heard _ List.prefix_rfl, payloads, flaky_attempts_handled]
  simp only [List.filterMap_cons, Feed.usable?, zero_trade_read, escapes, List.filterMap_nil]
  rfl

end Board
end PriceBoard
