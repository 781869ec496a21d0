import PriceBoard.Calendar.DateTime
import PriceBoard.Json.Reader
import PriceBoard.Text.Utf

/-!
# Trade messages

A message is a JSON object, perhaps wrapped in the member `data` of another. Its member `p` is the
price, a number or a numeral; its member `T` is the trade's time in milliseconds if it is a whole
number. Anything else is no trade.
-/
namespace PriceBoard.Feed

open PriceBoard.Decimal

inductive Payload where
  | text (content : String)
  | bytes (content : List Nat)
  deriving DecidableEq, Repr

def Payload.chars? : Payload → Option (List Char)
  | .text content => some content.toList
  | .bytes content => (Text.decodeBytes? content).map Json.joinSurrogates

structure Trade where
  price : Float
  time : Option DateTime
  deriving DecidableEq

inductive TradeError where
  /-- A whole number beyond the largest double. -/
  | priceTooLarge
  | time (error : TimeError)
  deriving DecidableEq, Repr

/-- The price a member stands for, or nothing where it stands for none. -/
def price (member : Json) : Except TradeError (Option Float) :=
  match member with
  | .number value => .ok (some value)
  | .bool value => .ok (some (if value then 1.0 else 0.0))
  | .string text => .ok (readFloat? text.toList)
  | .integer value =>
    match ofInteger? value with
    | some value => .ok (some value)
    | none => .error .priceTooLarge
  | _ => .ok none

/-- Truth values count as whole numbers. -/
def tradeTime (trade : Json) : Except TradeError (Option DateTime) :=
  match trade.member? "T" with
  | some (.integer ms) => ((DateTime.ofEpochMs ms).mapError .time).map some
  | some (.bool value) =>
    ((DateTime.ofEpochMs (if value then 1 else 0)).mapError .time).map some
  | _ => .ok none

def tradeOfJson (message : Json) : Except TradeError (Option Trade) :=
  let trade := (message.member? "data").getD message
  match trade.member? "p" with
  | none => .ok none
  | some member =>
    match price member with
    | .error error => .error error
    | .ok none => .ok none
    | .ok (some price) => (tradeTime trade).map fun time => some ⟨price, time⟩

def readTrade (payload : Payload) : Except TradeError (Option Trade) :=
  match payload.chars?.bind Json.read? with
  | none => .ok none
  | some message => tradeOfJson message

end PriceBoard.Feed
