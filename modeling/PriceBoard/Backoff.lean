import PriceBoard.Timeline

/-!
# Pauses that double

A pause is twice the one before, up to a cap. The first one is not capped.
-/
namespace PriceBoard

structure Backoff (Time : Type) where
  initial : Time
  cap : Time

def Backoff.next {Time : Type} [Timeline Time] (backoff : Backoff Time) (pause : Time) : Time :=
  Timeline.earlier (pause + pause) backoff.cap

end PriceBoard
