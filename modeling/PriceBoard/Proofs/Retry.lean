import Mathlib.Algebra.Order.Field.Basic
import PriceBoard.Retry
import PriceBoard.Proofs.Backoff

/-!
# The tries of a call

A call is tried up to the first outcome that is not worth another try, or as often as it may be. Each try
but the last is followed by its announcement and then by its pause, so the times of all tries are fixed by
the pauses drawn. Calls, announcements and pauses are counted from zero here, except where an announcement
gives its number.
-/
namespace PriceBoard.Retry

variable {Value Failure : Type}

def Outcome.ending : Outcome Value Failure → Ending Value Failure
  | .success value => .success value
  | .failure cause => .failure cause

def Outcome.IsRetryable (retryable : Failure → Bool) : Outcome Value Failure → Prop
  | .success _ => False
  | .failure cause => retryable cause = true

/-! ### Pauses -/

theorem draw_rat (width share : ℚ) : draw width share = width * share := by
  have unfolded : draw width share = if 0 < width ∨ width < 0 then width * share else width := rfl
  rw [unfolded]
  split_ifs with wide
  · rfl
  · obtain ⟨notAbove, notBelow⟩ := not_or.mp wide
    rw [le_antisymm (not_lt.mp notAbove) (not_lt.mp notBelow), zero_mul]

namespace Policy

/-- No time in the policy is negative. -/
structure Regular (policy : Policy ℚ) : Prop where
  initial : 0 ≤ policy.backoff.initial
  cap : 0 ≤ policy.backoff.cap
  jitter : 0 ≤ policy.jitter
  announcement : ∀ duration ∈ policy.announcement, 0 ≤ duration

variable {policy : Policy ℚ}

theorem pause_rat (delay share : ℚ) :
    policy.pause delay share = min delay policy.backoff.cap + delay * policy.jitter * share := by
  rw [pause, Timeline.earlier_rat, draw_rat]

theorem pause_bounds (regular : policy.Regular) {delay share : ℚ} (nonneg : 0 ≤ delay)
    (low : 0 ≤ share) (high : share ≤ 1) :
    min delay policy.backoff.cap ≤ policy.pause delay share ∧
      policy.pause delay share ≤ min delay policy.backoff.cap + policy.jitter * delay := by
  have width : 0 ≤ delay * policy.jitter := mul_nonneg nonneg regular.jitter
  have drawn : delay * policy.jitter * share ≤ delay * policy.jitter :=
    mul_le_of_le_one_right width high
  rw [pause_rat, mul_comm policy.jitter]
  exact ⟨le_add_of_nonneg_right (mul_nonneg width low), by linarith⟩

/-- Each value of the range of a pause is drawn with some share. -/
theorem exists_share {delay term : ℚ} (low : 0 ≤ term) (high : term ≤ policy.jitter * delay) :
    ∃ share, 0 ≤ share ∧ share ≤ 1 ∧
      policy.pause delay share = min delay policy.backoff.cap + term := by
  rcases eq_or_lt_of_le (low.trans high) with narrow | wide
  · have nothing : term = 0 := le_antisymm (high.trans narrow.ge) low
    refine ⟨0, le_refl 0, zero_le_one, ?_⟩
    rw [pause_rat, mul_zero, nothing]
  · refine ⟨term / (policy.jitter * delay), div_nonneg low wide.le, (div_le_one wide).mpr high, ?_⟩
    rw [pause_rat, mul_comm delay, mul_div_cancel₀ term wide.ne']

def pauseAfter (policy : Policy ℚ) (shares : ℕ → ℚ) (attempt : ℕ) : ℚ :=
  policy.pause (policy.backoff.after attempt) (shares attempt)

def callAt (policy : Policy ℚ) (shares : ℕ → ℚ) (clock : ℚ) : ℕ → ℚ
  | 0 => clock
  | attempt + 1 => policy.callAt shares clock attempt + policy.announcement.getD 0 +
      policy.pauseAfter shares attempt

/-- A call whose failure is tried again, and the announcement of the pause that follows. -/
def round (policy : Policy ℚ) (shares : ℕ → ℚ) (outcomes : ℕ → Outcome Value Failure) (clock : ℚ)
    (attempt : ℕ) : List (ℚ × Event ℚ Failure) :=
  (policy.callAt shares clock attempt, .call) ::
    match outcomes attempt with
    | .success _ => []
    | .failure failure => (policy.announcement.map fun duration =>
        (policy.callAt shares clock attempt + duration,
          .retry (attempt + 1) failure (policy.pauseAfter shares attempt))).toList

end Policy

/-! ### One try -/

variable {policy : Policy ℚ} {retryable : Failure → Bool} {shares : ℕ → ℚ}
  {outcomes : ℕ → Outcome Value Failure} {attempt remaining : ℕ} {clock : ℚ}

theorem announced_regular (regular : policy.Regular) (number : ℕ) (failure : Failure) (pause : ℚ) :
    announced policy clock number failure pause = (clock + policy.announcement.getD 0,
      (policy.announcement.map fun duration =>
        (clock + duration, Event.retry number failure pause)).toList) := by
  unfold announced
  cases announcement : policy.announcement with
  | none => rw [Option.getD_none, add_zero, Option.map_none, Option.toList_none]
  | some duration =>
      have lasts := Timeline.wait_rat (regular.announcement duration announcement) clock
      simp only [lasts]
      rfl

theorem run_from_final (final : remaining = 0 ∨ ¬(outcomes attempt).IsRetryable retryable)
    (delay : ℚ) :
    runFrom policy retryable shares outcomes (remaining + 1) attempt clock delay =
      ⟨[(clock, .call)], clock, (outcomes attempt).ending⟩ := by
  rw [runFrom]
  cases outcome : outcomes attempt with
  | success value => rfl
  | failure failure =>
      rw [outcome] at final
      have ends : retryable failure = false ∨ remaining = 0 :=
        final.symm.imp_left Bool.eq_false_of_not_eq_true
      exact if_pos ends

/-- A call that is tried again leaves the rest to the calls after its pause. -/
theorem run_from_again (regular : policy.Regular) (drawn : 0 ≤ policy.pauseAfter shares attempt)
    (again : (outcomes attempt).IsRetryable retryable) {rest : Run ℚ Value Failure}
    (restIs : runFrom policy retryable shares outcomes (remaining + 1) (attempt + 1)
      (policy.callAt shares clock (attempt + 1)) (policy.backoff.after (attempt + 1)) = rest) :
    runFrom policy retryable shares outcomes (remaining + 2) attempt
        (policy.callAt shares clock attempt) (policy.backoff.after attempt) =
      { rest with events := policy.round shares outcomes clock attempt ++ rest.events } := by
  rw [Policy.callAt, ← Backoff.next_after regular.cap] at restIs
  rw [runFrom, Policy.round]
  cases outcome : outcomes attempt with
  | success value =>
      rw [outcome] at again
      exact again.elim
  | failure failure =>
      rw [outcome] at again
      have goesOn : ¬(retryable failure = false ∨ remaining + 1 = 0) := by
        rintro (refused | none)
        · exact Bool.noConfusion (refused.symm.trans again)
        · exact Nat.succ_ne_zero remaining none
      refine (if_neg goesOn).trans ?_
      have slept := Timeline.wait_rat drawn
        (policy.callAt shares clock attempt + policy.announcement.getD 0)
      rw [← slept] at restIs
      simp only [announced_regular regular, ← restIs]
      rfl

/-! ### All tries -/

/-- What a run does from a call on that may be followed by others, `more` of which follow. -/
structure Course (policy : Policy ℚ) (retryable : Failure → Bool) (shares : ℕ → ℚ)
    (outcomes : ℕ → Outcome Value Failure) (clock : ℚ) (remaining attempt more : ℕ)
    (run : Run ℚ Value Failure) : Prop where
  allowed : more < remaining
  again : ∀ count < more, (outcomes (attempt + count)).IsRetryable retryable
  final : more + 1 = remaining ∨ ¬(outcomes (attempt + more)).IsRetryable retryable
  ending : run.ending = (outcomes (attempt + more)).ending
  ends : run.clock = policy.callAt shares clock (attempt + more)
  events : run.events = (List.range' attempt more).flatMap (policy.round shares outcomes clock) ++
    [(policy.callAt shares clock (attempt + more), .call)]

theorem course_of_final (final : remaining = 0 ∨ ¬(outcomes attempt).IsRetryable retryable)
    (delay : ℚ) :
    Course policy retryable shares outcomes clock (remaining + 1) attempt 0
      (runFrom policy retryable shares outcomes (remaining + 1) attempt
        (policy.callAt shares clock attempt) delay) := by
  rw [run_from_final final]
  constructor
  · exact Nat.succ_pos remaining
  · exact fun count none => absurd none (Nat.not_lt_zero count)
  · exact final.imp_left fun none => by rw [none]
  · rfl
  · rfl
  · rfl

theorem course_of_again (regular : policy.Regular) (drawn : 0 ≤ policy.pauseAfter shares attempt)
    (again : (outcomes attempt).IsRetryable retryable) {more : ℕ}
    (rest : Course policy retryable shares outcomes clock (remaining + 1) (attempt + 1) more
      (runFrom policy retryable shares outcomes (remaining + 1) (attempt + 1)
        (policy.callAt shares clock (attempt + 1)) (policy.backoff.after (attempt + 1)))) :
    Course policy retryable shares outcomes clock (remaining + 2) attempt (more + 1)
      (runFrom policy retryable shares outcomes (remaining + 2) attempt
        (policy.callAt shares clock attempt) (policy.backoff.after attempt)) := by
  have shifted (count : ℕ) : attempt + (count + 1) = attempt + 1 + count := by omega
  rw [run_from_again regular drawn again rfl]
  constructor
  · exact Nat.succ_lt_succ rest.allowed
  · intro count inside
    cases count with
    | zero => exact again
    | succ count =>
        rw [shifted]
        exact rest.again count (Nat.lt_of_succ_lt_succ inside)
  · rw [shifted more]
    exact rest.final.imp_left (congrArg Nat.succ)
  · rw [shifted more]
    exact rest.ending
  · rw [shifted more]
    exact rest.ends
  · rw [shifted more, List.range'_succ, List.flatMap_cons, List.append_assoc, ← rest.events]

theorem exists_course (regular : policy.Regular) (drawn : ∀ attempt, 0 ≤ policy.pauseAfter shares attempt)
    (remaining attempt : ℕ) :
    ∃ more, Course policy retryable shares outcomes clock (remaining + 1) attempt more
      (runFrom policy retryable shares outcomes (remaining + 1) attempt
        (policy.callAt shares clock attempt) (policy.backoff.after attempt)) := by
  induction remaining generalizing attempt with
  | zero => exact ⟨0, course_of_final (.inl rfl) _⟩
  | succ remaining induction =>
      by_cases again : (outcomes attempt).IsRetryable retryable
      · obtain ⟨more, rest⟩ := induction (attempt + 1)
        exact ⟨more + 1, course_of_again regular (drawn attempt) again rest⟩
      · exact ⟨0, course_of_final (.inr again) _⟩

theorem run_exhausted (none : policy.tries ≤ 0) (clock : ℚ) :
    run policy retryable shares outcomes clock = ⟨[], clock, .exhausted⟩ := by
  rw [run, Int.toNat_of_nonpos none]
  rfl

theorem ending_ne_exhausted (outcome : Outcome Value Failure) : outcome.ending ≠ .exhausted := by
  cases outcome <;> exact nofun

theorem run_course (regular : policy.Regular) (drawn : ∀ attempt, 0 ≤ policy.pauseAfter shares attempt)
    (some : 1 ≤ policy.tries) (clock : ℚ) :
    ∃ last, Course policy retryable shares outcomes clock policy.tries.toNat 0 last
      (run policy retryable shares outcomes clock) := by
  obtain ⟨remaining, tries⟩ : ∃ remaining, policy.tries.toNat = remaining + 1 :=
    Nat.exists_eq_add_of_le' (by omega)
  rw [run, tries]
  exact exists_course regular drawn remaining 0

/-- A run calls up to the first outcome that is not worth another try, or as often as it may. Each call but
the last is announced once and followed by its pause, a pause lies in its range and may lie anywhere there,
and only where no try is allowed is there no outcome to end with. -/
theorem tries_until_final (regular : policy.Regular)
    (drawn : ∀ attempt, 0 ≤ shares attempt ∧ shares attempt ≤ 1) (retryable : Failure → Bool)
    (outcomes : ℕ → Outcome Value Failure) (clock : ℚ) :
    (1 ≤ policy.tries → ∃ last : ℕ, (last + 1 : ℤ) ≤ policy.tries ∧
      (∀ attempt < last, (outcomes attempt).IsRetryable retryable) ∧
      ((last + 1 : ℤ) = policy.tries ∨ ¬(outcomes last).IsRetryable retryable) ∧
      run policy retryable shares outcomes clock =
        ⟨(List.range last).flatMap (policy.round shares outcomes clock) ++
          [(policy.callAt shares clock last, .call)],
          policy.callAt shares clock last, (outcomes last).ending⟩) ∧
      (∀ attempt, min (policy.backoff.after attempt) policy.backoff.cap ≤
          policy.pauseAfter shares attempt ∧
        policy.pauseAfter shares attempt ≤ min (policy.backoff.after attempt) policy.backoff.cap +
          policy.jitter * policy.backoff.after attempt) ∧
      (∀ attempt term, 0 ≤ term → term ≤ policy.jitter * policy.backoff.after attempt →
        ∃ share, 0 ≤ share ∧ share ≤ 1 ∧ policy.pause (policy.backoff.after attempt) share =
          min (policy.backoff.after attempt) policy.backoff.cap + term) ∧
      ((run policy retryable shares outcomes clock).ending = .exhausted ↔ policy.tries ≤ 0) := by
  have sizes (attempt : ℕ) := Backoff.after_nonneg regular.initial regular.cap attempt
  have bounds (attempt : ℕ) :=
    Policy.pause_bounds regular (sizes attempt) (drawn attempt).1 (drawn attempt).2
  have nonneg (attempt : ℕ) : 0 ≤ policy.pauseAfter shares attempt :=
    (le_min (sizes attempt) regular.cap).trans (bounds attempt).1
  refine ⟨?_, bounds, fun attempt term low high => Policy.exists_share low high, ?_⟩
  · intro some
    obtain ⟨last, course⟩ := @run_course _ _ policy retryable shares outcomes regular nonneg some clock
    obtain ⟨allowed, again, final, ending, ends, events⟩ := course
    simp only [Nat.zero_add, ← List.range_eq_range'] at again final ending ends events
    refine ⟨last, by omega, again, final.imp_left fun all => by omega, ?_⟩
    rw [← events, ← ends, ← ending]
  · constructor
    · intro exhausted
      by_contra some
      obtain ⟨last, course⟩ := @run_course _ _ policy retryable shares outcomes regular nonneg
        (by omega) clock
      exact ending_ne_exhausted _ (course.ending.symm.trans exhausted)
    · intro none
      rw [run_exhausted none]

/-- Four tries, with pauses of a second that double up to a second and a half. -/
def patient : Policy ℚ := ⟨4, ⟨1, 3 / 2⟩, 1 / 10, some (1 / 2)⟩

/-- The connection is down twice; then a key is missing. -/
def afterOutage (attempt : ℕ) : Outcome Unit FailureKind :=
  .failure (if attempt < 2 then .connection else .missingKey)

theorem patient_regular : patient.Regular where
  initial := by norm_num [patient]
  cap := by norm_num [patient]
  jitter := by norm_num [patient]
  announcement duration isDuration := by
    cases isDuration
    norm_num

theorem tries_until_final_at_missing_key :
    patient.Regular ∧ 1 ≤ patient.tries ∧ (0 : ℚ) ≤ 1 / 2 ∧ (1 / 2 : ℚ) ≤ 1 ∧
      run patient (·.isA .system) (fun _ => 1 / 2) afterOutage 0 =
        ⟨[(0, .call), (1 / 2, .retry 1 .connection (21 / 20)), (31 / 20, .call),
          (41 / 20, .retry 2 .connection (63 / 40)), (29 / 8, .call)], 29 / 8, .failure .missingKey⟩ := by
  have half : (0 : ℚ) ≤ 1 / 2 ∧ (1 / 2 : ℚ) ≤ 1 := by norm_num
  obtain ⟨tried, _⟩ := tries_until_final patient_regular (fun _ => half) (·.isA .system) afterOutage 0
  obtain ⟨last, _, again, final, ran⟩ := tried (by decide)
  have two : last = 2 := by
    have atLeast : ¬last < 2 := by
      intro early
      rcases final with all | refused
      · have allowed : patient.tries = 4 := rfl
        omega
      · apply refused
        rw [afterOutage, if_pos early]
        exact rfl
    have atMost : ¬2 < last := fun late => Bool.noConfusion (again 2 late)
    omega
  have first : patient.pauseAfter (fun _ => 1 / 2) 0 = 21 / 20 := by
    rw [Policy.pauseAfter, Policy.pause_rat, Backoff.after_zero]
    norm_num [patient]
  have second : patient.pauseAfter (fun _ => 1 / 2) 1 = 63 / 40 := by
    rw [Policy.pauseAfter, Policy.pause_rat, Backoff.after_add_one]
    norm_num [patient]
  have next : patient.callAt (fun _ => 1 / 2) 0 1 = 31 / 20 := by
    rw [Policy.callAt, Policy.callAt, first]
    norm_num [patient]
  have ends : patient.callAt (fun _ => 1 / 2) 0 2 = 29 / 8 := by
    rw [Policy.callAt, next, second]
    norm_num [patient]
  refine ⟨patient_regular, by decide, half.1, half.2, ?_⟩
  rw [ran, two, ends]
  simp only [List.range_succ, List.range_zero, List.nil_append, List.cons_append, List.flatMap_cons,
    List.flatMap_nil, List.append_nil, Policy.round, afterOutage, first, second, Policy.callAt]
  norm_num [patient, Outcome.ending]

end PriceBoard.Retry
