import PriceBoard.Board.Basic
import PriceBoard.Feed.Stream

/-!
# Listening to streams

A board takes the messages of a stream as they come. Its wall clock goes on with the stream's time.
-/
namespace PriceBoard

open Feed (Activity TradeError)

/-- What can be seen of a stream that a board listens to. -/
inductive Heard where
  | connecting
  | message (accepted : Except TradeError Bool)

namespace Board

variable {Time : Type} [Timeline Time]

/-- Moves on to a time; `opening` is what the wall clock shows at time zero. -/
def moveTo (board : Board Time) (opening : DateTime) (clock : Time) : Board Time :=
  match opening.plusMicros (Timeline.micros clock) with
  | .ok now => { board with clock, now }
  | .error _ => { board with clock }

def hear (board : Board Time) (feed : String) : Activity Time → Board Time × Option Heard
  | .connecting => (board, some .connecting)
  | .received payload =>
    let (board, accepted) := board.message feed payload
    (board, some (.message accepted))
  | _ => (board, none)

/-- Listens to a stream from its start. -/
def listen (board : Board Time) (opening : DateTime) (feed : String) :
    List (Time × Activity Time) → Board Time × List (Time × Heard)
  | [] => (board, [])
  | (clock, activity) :: activities =>
    let (board, heard) := (board.moveTo opening clock).hear feed activity
    let (board, rest) := board.listen opening feed activities
    (board, (heard.map fun heard => (clock, heard)).toList ++ rest)

end Board
end PriceBoard
