import PriceBoard.Backoff
import Mathlib.Algebra.Order.Ring.Rat
import Mathlib.Tactic.Linarith
import Mathlib.Tactic.Ring

/-!
# Doubled pauses in closed form

After some pauses the next one is the initial pause, doubled once for each of them and cut off at the cap.
Only the very first is not cut off. On exact rationals a wait takes just its length.
-/
namespace PriceBoard

theorem Timeline.earlier_rat (left right : ℚ) : Timeline.earlier left right = min left right := by
  have unfolded : Timeline.earlier left right = if right < left then right else left := rfl
  rw [unfolded]
  split_ifs with before
  · exact (min_eq_right before.le).symm
  · exact (min_eq_left (not_lt.mp before)).symm

theorem Timeline.wait_rat {delay : ℚ} (nonneg : 0 ≤ delay) (clock : ℚ) :
    Timeline.wait clock delay = clock + delay := by
  have unfolded : Timeline.wait clock delay = if 0 < delay then clock + delay else clock := rfl
  rw [unfolded]
  split_ifs with positive
  · rfl
  · rw [le_antisymm (not_lt.mp positive) nonneg, add_zero]

namespace Backoff

/-- The pause that comes after this many others. -/
def after (backoff : Backoff ℚ) (count : ℕ) : ℚ :=
  if count = 0 then backoff.initial else min (backoff.initial * 2 ^ count) backoff.cap

variable {backoff : Backoff ℚ}

theorem after_zero : backoff.after 0 = backoff.initial := if_pos rfl

theorem after_add_one (count : ℕ) :
    backoff.after (count + 1) = min (backoff.initial * 2 ^ (count + 1)) backoff.cap :=
  if_neg (Nat.succ_ne_zero count)

/-- Doubling a pause that was cut off gives nothing below the cap. -/
theorem next_after (capped : 0 ≤ backoff.cap) (count : ℕ) :
    backoff.next (backoff.after count) = backoff.after (count + 1) := by
  have doubled : backoff.initial * 2 ^ (count + 1) =
      backoff.initial * 2 ^ count + backoff.initial * 2 ^ count := by ring
  rw [next, Timeline.earlier_rat, after_add_one, doubled]
  cases count with
  | zero => rw [after_zero, pow_zero, mul_one]
  | succ count =>
      rw [after_add_one]
      rcases le_total (backoff.initial * 2 ^ (count + 1)) backoff.cap with below | above
      · rw [min_eq_left below]
      · rw [min_eq_right above, min_eq_right (by linarith), min_eq_right (by linarith)]

theorem after_nonneg (initial : 0 ≤ backoff.initial) (capped : 0 ≤ backoff.cap) (count : ℕ) :
    0 ≤ backoff.after count := by
  cases count with
  | zero => exact initial
  | succ count =>
      rw [after_add_one]
      exact le_min (mul_nonneg initial (pow_nonneg (by norm_num) _)) capped

end Backoff
end PriceBoard
