import PriceBoard.Feed.Trade
import PriceBoard.Proofs.Calendar.Instant
import PriceBoard.Proofs.Decimal.Overflow
import PriceBoard.Proofs.Results

/-!
# Payloads that hold no trade

Of all the payloads a feed may send, two kinds end in an error: those whose price is a whole number beyond
the doubles, and those with a price and a whole number for a time that lies beyond the calendar. Every
other payload is read, as a trade or as none.
-/
namespace PriceBoard.Feed

open PriceBoard.Decimal PriceBoard.DateTime

/-- The object that may hold the trade of a message: its member `data`, or the message itself. -/
def tradeObject (message : Json) : Json := (message.member? "data").getD message

inductive Oversized (trade : Json) : Prop where
  | price (amount : ℤ) (priced : trade.member? "p" = some (.integer amount))
      (beyond : doubleLimit ≤ amount.natAbs)
  | time (member : Json) (amount : Float) (ms : ℤ) (priced : trade.member? "p" = some member)
      (readable : price member = .ok (some amount)) (timed : trade.member? "T" = some (.integer ms))
      (beyond : ¬MsInRange ms)

def Payload.Oversized (payload : Payload) : Prop :=
  ∃ message, payload.chars?.bind Json.read? = some message ∧ Feed.Oversized (tradeObject message)

/-! ### Times -/

theorem of_epoch_ms_fails_iff (ms : ℤ) : (∃ error, ofEpochMs ms = .error error) ↔ ¬MsInRange ms := by
  constructor
  · rintro ⟨error, failed⟩ inRange
    obtain ⟨wall, found, _⟩ := of_epoch_ms_in_range inRange
    cases found.symm.trans failed
  · exact fun outside => ⟨.outOfRange, of_epoch_ms_error_iff.mpr outside⟩

/-- Truth values stand for the first two milliseconds of the epoch. -/
theorem truth_in_range (value : Bool) : MsInRange (if value then 1 else 0) := by
  unfold MsInRange instantOfMs epochMicros dayLimit microsPerDay
  cases value <;> decide

theorem trade_time_error_iff (trade : Json) :
    (∃ error, tradeTime trade = .error error) ↔
      ∃ ms, trade.member? "T" = some (.integer ms) ∧ ¬MsInRange ms := by
  unfold tradeTime
  split
  · rename_i ms timed
    rw [error_of_map_iff, error_of_map_error_iff, of_epoch_ms_fails_iff]
    constructor
    · exact fun beyond => ⟨ms, timed, beyond⟩
    · rintro ⟨other, same, beyond⟩
      cases timed.symm.trans same
      exact beyond
  · rename_i value timed
    rw [error_of_map_iff, error_of_map_error_iff, of_epoch_ms_fails_iff]
    constructor
    · exact fun beyond => absurd (truth_in_range value) beyond
    · rintro ⟨ms, same, _⟩
      cases timed.symm.trans same
  · rename_i notWhole _
    constructor
    · rintro ⟨_, failed⟩
      cases failed
    · exact fun ⟨ms, timed, _⟩ => absurd timed (notWhole ms)

/-! ### Prices -/

theorem price_error_iff (member : Json) :
    (∃ error, price member = .error error) ↔
      ∃ amount, member = .integer amount ∧ doubleLimit ≤ amount.natAbs := by
  cases member with
  | integer amount =>
      have same : (∃ other, Json.integer amount = .integer other ∧ doubleLimit ≤ other.natAbs) ↔
          doubleLimit ≤ amount.natAbs := by
        constructor
        · rintro ⟨other, equal, beyond⟩
          cases equal
          exact beyond
        · exact fun beyond => ⟨amount, rfl, beyond⟩
      rw [same, ← of_integer_none_iff]
      cases converted : ofInteger? amount <;> simp [price, converted]
  | _ => simp [price]

/-! ### Trades -/

theorem trade_of_json_error_iff (message : Json) :
    (∃ error, tradeOfJson message = .error error) ↔ Oversized (tradeObject message) := by
  unfold tradeOfJson
  rw [← tradeObject]
  generalize tradeObject message = trade
  dsimp only
  constructor
  · rintro ⟨error, failed⟩
    split at failed
    · cases failed
    · rename_i member priced
      split at failed
      · rename_i priceError tooLarge
        obtain ⟨amount, rfl, beyond⟩ := (price_error_iff member).mp ⟨_, tooLarge⟩
        exact .price amount priced beyond
      · cases failed
      · rename_i amount readable
        obtain ⟨ms, timed, beyond⟩ :=
          (trade_time_error_iff trade).mp (error_of_map_iff.mp ⟨error, failed⟩)
        exact .time member amount ms priced readable timed beyond
  · rintro (⟨amount, priced, beyond⟩ | ⟨member, amount, ms, priced, readable, timed, beyond⟩)
    · obtain ⟨error, failed⟩ := (price_error_iff _).mpr ⟨amount, rfl, beyond⟩
      simp only [priced, failed]
      exact ⟨error, rfl⟩
    · simp only [priced, readable]
      exact error_of_map_iff.mpr ((trade_time_error_iff trade).mpr ⟨ms, timed, beyond⟩)

/-- Only a number that is too large makes the reading of a payload fail. -/
theorem read_trade_error_iff (payload : Payload) :
    (∃ error, readTrade payload = .error error) ↔ payload.Oversized := by
  unfold readTrade Payload.Oversized
  cases payload.chars?.bind Json.read? with
  | none => simp
  | some message =>
      dsimp only
      rw [trade_of_json_error_iff]
      constructor
      · exact fun oversized => ⟨message, rfl, oversized⟩
      · rintro ⟨other, same, oversized⟩
        cases same
        exact oversized

end PriceBoard.Feed
