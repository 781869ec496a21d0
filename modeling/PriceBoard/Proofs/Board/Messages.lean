import PriceBoard.Proofs.Board.Steps
import PriceBoard.Proofs.Feed.Trade

/-!
# Messages of a feed

A message of a configured feed sets the feed's quote or is dropped, and is counted once for the one or the
other; a message whose payload is oversized does neither, is not counted and leaves the board as it was.
The counts of a run of messages are those of its messages in their order.
-/
namespace PriceBoard

open Feed (Payload Quotes)

def counted? (feed : String) (payload : Payload) : Option Metric :=
  match Feed.readTrade payload with
  | .ok (some _) => some (.feedUpdate feed)
  | .ok none => some (.messageDropped feed)
  | .error _ => none

namespace Board

variable {Time : Type}

inductive Handled (feed : String) (payload : Payload) (before after : Board Time) :
    Except BoardError Reply → Prop where
  | updated (trade : Feed.Trade) (read : Feed.readTrade payload = .ok (some trade))
      (latest : after.quotes.quote? feed =
        some ⟨feed, trade.price, trade.time.getD before.now⟩)
      (others : ∀ other, other ≠ feed → after.quotes.quote? other = before.quotes.quote? other)
      (counted : after.metrics = before.metrics ++ [.feedUpdate feed]) :
      Handled feed payload before after (.ok (.flag true))
  | dropped (read : Feed.readTrade payload = .ok none) (unchanged : after.quotes = before.quotes)
      (counted : after.metrics = before.metrics ++ [.messageDropped feed]) :
      Handled feed payload before after (.ok (.flag false))
  | escaped (error : Feed.TradeError) (read : Feed.readTrade payload = .error error)
      (oversized : payload.Oversized) (unchanged : after = before) :
      Handled feed payload before after (.error (.trade error))

theorem Handled.metrics {feed : String} {payload : Payload} {before after : Board Time}
    {reply : Except BoardError Reply} (handled : Handled feed payload before after reply) :
    after.metrics = before.metrics ++ (counted? feed payload).toList := by
  unfold counted?
  cases handled with
  | updated trade read _ _ counted => rw [read, counted, Option.toList_some]
  | dropped read _ counted => rw [read, counted, Option.toList_some]
  | escaped error read _ unchanged => rw [read, unchanged, Option.toList_none, List.append_nil]

variable [Timeline Time]

theorem message_handled (board : Board Time) {feed : String} (configured : feed ∈ board.quotes.feeds)
    (payload : Payload) :
    Handled feed payload board (board.step (.message feed payload)).1
      (board.step (.message feed payload)).2 := by
  cases read : Feed.readTrade payload with
  | error error =>
      have same : board.step (.message feed payload) = (board, .error (.trade error)) := by
        simp only [step, message, read]
        rfl
      rw [same]
      exact .escaped error read ((Feed.read_trade_error_iff payload).mp ⟨error, read⟩) rfl
  | ok found =>
      cases found with
      | none =>
          have same : board.step (.message feed payload) =
              (board.count [.messageDropped feed], .ok (.flag false)) := by
            simp only [step, message, read]
            rfl
          rw [same]
          exact .dropped read rfl rfl
      | some trade =>
          have same : board.step (.message feed payload) =
              ((board.update feed trade.price trade.time).1, .ok (.flag true)) := by
            simp only [step, message_of_trade read, update, Feed.update_known configured]
            rfl
          have quotes : (board.update feed trade.price trade.time).1.quotes.reported =
              setMember feed ⟨feed, trade.price, trade.time.getD board.now⟩ board.quotes.reported := by
            rw [update, Feed.update_known configured]
            rfl
          rw [same]
          refine .updated trade read ?_ ?_ ?_
          · rw [Quotes.quote?, quotes, lookup_set_member, if_pos rfl]
          · intro other differs
            rw [Quotes.quote?, quotes, lookup_set_member, if_neg differs, Quotes.quote?]
          · rw [update, Feed.update_known configured]
            rfl

def hearing (feed : String) (payloads : List Payload) : List (Step Time) :=
  payloads.map (.message feed)

theorem run_hearing_cons (board : Board Time) (feed : String) (payload : Payload)
    (payloads : List Payload) :
    board.run (hearing feed (payload :: payloads)) =
      (((board.step (.message feed payload)).1.run (hearing feed payloads)).1,
        (board.step (.message feed payload)).2 ::
          ((board.step (.message feed payload)).1.run (hearing feed payloads)).2) :=
  rfl

theorem hearing_metrics (board : Board Time) {feed : String}
    (configured : feed ∈ board.quotes.feeds) (payloads : List Payload) :
    (board.run (hearing feed payloads)).1.metrics =
      board.metrics ++ payloads.filterMap (counted? feed) := by
  induction payloads generalizing board with
  | nil => exact (List.append_nil _).symm
  | cons payload payloads induction =>
      have next := (message_handled board configured payload).metrics
      have rest := induction (board.step (.message feed payload)).1 (by rwa [step_feeds])
      rw [run_hearing_cons, rest, next, List.append_assoc, List.filterMap_cons]
      cases counted? feed payload <;> rfl

/-- The message after some others meets the board that those have left. -/
theorem hearing_handled (board : Board Time) {feed : String} (configured : feed ∈ board.quotes.feeds)
    (earlier : List Payload) (payload : Payload) (later : List Payload) :
    ∃ reply, (board.run (hearing feed (earlier ++ payload :: later))).2[earlier.length]? = some reply ∧
      Handled feed payload (board.run (hearing feed earlier)).1
        (board.run (hearing feed (earlier ++ [payload]))).1 reply := by
  induction earlier generalizing board with
  | nil => exact ⟨_, rfl, message_handled board configured payload⟩
  | cons first earlier induction =>
      exact induction (board.step (.message feed first)).1 (by rwa [step_feeds])

/-- A payload escapes exactly when it is oversized. However many messages a configured feed has sent, the
next one sets the feed's quote, is dropped or escapes, and the messages that do not escape are counted
once each. -/
theorem messages_counted_once (board : Board Time) {feed : String}
    (configured : feed ∈ board.quotes.feeds) (payloads : List Payload) :
    (∀ payload : Payload, (∃ error, Feed.readTrade payload = .error error) ↔ payload.Oversized) ∧
      (∀ earlier payload later, payloads = earlier ++ payload :: later → ∃ reply,
        (board.run (hearing feed payloads)).2[earlier.length]? = some reply ∧
        Handled feed payload (board.run (hearing feed earlier)).1
          (board.run (hearing feed (earlier ++ [payload]))).1 reply) ∧
      (board.run (hearing feed payloads)).1.metrics =
        board.metrics ++ payloads.filterMap (counted? feed) := by
  refine ⟨Feed.read_trade_error_iff, ?_, hearing_metrics board configured payloads⟩
  rintro earlier payload later rfl
  exact hearing_handled board configured earlier payload later

/-! ### A trade in nanoseconds -/

open Json in
theorem read_word_digit {char : Char} (digit : Decimal.isAsciiDigit char = true)
    (rest : List Char) : readWord? (char :: rest) = none := by
  have differs (other : Char) (isNot : Decimal.isAsciiDigit other = false) : char ≠ other := by
    rintro rfl
    cases digit.symm.trans isNot
  simp [readWord?, Text.after?, differs 'n' rfl, differs 't' rfl, differs 'f' rfl,
    differs 'N' rfl, differs 'I' rfl, differs '-' rfl]

/-- A trade whose time counts nanoseconds instead of milliseconds. -/
def inNanoseconds : Payload := .text "\x7b\"p\": 64000, \"T\": 1700000000000000000\x7d"

open Json in
theorem in_nanoseconds_eq : inNanoseconds.chars?.bind read? =
    some (.object [("p", .integer 64000), ("T", .integer 1700000000000000000)]) := by
  have price (rest : List Char) : readNumber? ("64000".toList ++ ',' :: rest) =
      some (.integer 64000, ',' :: rest) := by
    rfl
  have time : readNumber? "1700000000000000000\x7d".toList =
      some (.integer 1700000000000000000, ['\x7d']) := by
    rfl
  have one : Decimal.isAsciiDigit '1' = true := rfl
  have six : Decimal.isAsciiDigit '6' = true := rfl
  have budget : 2 * "\x7b\"p\": 64000, \"T\": 1700000000000000000\x7d".toList.length + 2 = 72 + 6 := by
    decide
  simp only [String.reduceToList, List.cons_append, List.nil_append] at price time
  rw [inNanoseconds, Payload.chars?, Option.bind_some, read?, budget]
  generalize 72 = budget
  simp [readValue, readMembers, readString?, splitQuoted, unescape, skipBreaks, isBreak,
    read_word_digit, one, six, price, time, membersOf, setMember, joinSurrogates, charOfPoint,
    isHighSurrogate, isLowSurrogate]

theorem in_nanoseconds_oversized : inNanoseconds.Oversized := by
  refine ⟨_, in_nanoseconds_eq, ?_⟩
  obtain ⟨amount, converted⟩ : ∃ amount, Decimal.ofInteger? 64000 = some amount := by
    apply Option.ne_none_iff_exists'.mp
    rw [Ne, Decimal.of_integer_none_iff]
    decide +kernel
  refine .time (.integer 64000) amount 1700000000000000000 rfl ?_ rfl ?_
  · simp only [Feed.price, converted]
  · unfold DateTime.MsInRange DateTime.instantOfMs DateTime.epochMicros dayLimit microsPerDay
    decide

theorem no_trade_in_list : Feed.readTrade (.text "[]") = .ok none := by
  decide +kernel

def bitcoinBoard : Board Rat :=
  start ⟨3600, 500, 100⟩ ["bitcoin"] ⟨⟨63840000007000000, by decide⟩, some Offset.utc⟩

theorem messages_counted_once_in_nanoseconds :
    "bitcoin" ∈ bitcoinBoard.quotes.feeds ∧ (∃ error, Feed.readTrade inNanoseconds = .error error) ∧
      (bitcoinBoard.run (hearing "bitcoin" [.text "[]", inNanoseconds])).1.metrics =
        [.messageDropped "bitcoin"] := by
  have configured : "bitcoin" ∈ bitcoinBoard.quotes.feeds := List.mem_singleton_self _
  obtain ⟨escapes, _, counted⟩ :=
    messages_counted_once bitcoinBoard configured [.text "[]", inNanoseconds]
  obtain ⟨error, read⟩ := (escapes inNanoseconds).mpr in_nanoseconds_oversized
  refine ⟨configured, ⟨error, read⟩, ?_⟩
  rw [counted]
  simp only [List.filterMap_cons, counted?, no_trade_in_list, read, List.filterMap_nil]
  rfl

/-- The message of a trade in nanoseconds is an error, and neither updates nor counts. -/
theorem nanoseconds_escape : ∃ error, Feed.readTrade inNanoseconds = .error error ∧
    bitcoinBoard.step (.message "bitcoin" inNanoseconds) = (bitcoinBoard, .error (.trade error)) := by
  obtain ⟨error, read⟩ := (Feed.read_trade_error_iff _).mpr in_nanoseconds_oversized
  refine ⟨error, read, ?_⟩
  simp only [step, message, read]
  rfl

end Board

end PriceBoard
