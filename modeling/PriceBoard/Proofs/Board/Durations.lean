import PriceBoard.Proofs.Backoff
import PriceBoard.Proofs.Board.Patterns

/-!
# Commands up to the first failure

Commands that are issued one after the other take the sum of their delays, up to the first that fails.
Where this is less than the time limit, the first failure decides how they end. Where it is more, the time
is over.
-/
namespace PriceBoard

/-! ### How long commands take -/

namespace Pattern

section

variable {Time : Type}

/-- The commands up to the first that fails, and with it. -/
def throughFailure : Pattern Time → List Command → List Command
  | _, [] => []
  | pattern, command :: commands =>
    command :: if (pattern 0 command).failure.isSome then []
      else throughFailure pattern.next commands

def failure? : Pattern Time → List Command → Option String
  | _, [] => none
  | pattern, command :: commands =>
    (pattern 0 command).failure.or (failure? pattern.next commands)

end

def duration : Pattern ℚ → List Command → ℚ
  | _, [] => 0
  | pattern, command :: commands => (pattern 0 command).delay + duration pattern.next commands

def Forward (pattern : Pattern ℚ) : Prop := ∀ count command, 0 ≤ (pattern count command).delay

variable {pattern : Pattern ℚ} {clock limit : ℚ} {commands : List Command}

theorem Forward.next (forward : pattern.Forward) : pattern.next.Forward :=
  fun count => forward (count + 1)

theorem past_rat (forward : pattern.Forward) (clock : ℚ) (command : Command) :
    pattern.past clock command = clock + (pattern 0 command).delay :=
  Timeline.wait_rat (forward 0 command) clock

theorem duration_nonneg (forward : pattern.Forward) (commands : List Command) :
    0 ≤ pattern.duration commands := by
  induction commands generalizing pattern with
  | nil => exact le_rfl
  | cons command commands induction => exact add_nonneg (forward 0 command) (induction forward.next)

theorem fate_unlimited (pattern : Pattern ℚ) (clock : ℚ) (commands : List Command) :
    pattern.fate none clock commands = Issued.ofFailure (pattern.failure? commands) := by
  induction commands generalizing pattern clock with
  | nil => rfl
  | cons command commands induction =>
      have inTime : ¬Late none (pattern.past clock command) := by simp [Late]
      rw [fate, if_neg inTime, failure?]
      cases (pattern 0 command).failure with
      | some message => rfl
      | none => exact induction pattern.next (pattern.past clock command)

theorem fate_before (forward : pattern.Forward)
    (before : clock + pattern.duration (pattern.throughFailure commands) < limit) :
    pattern.fate (some limit) clock commands = Issued.ofFailure (pattern.failure? commands) := by
  induction commands generalizing pattern clock with
  | nil => rfl
  | cons command commands induction =>
      rw [throughFailure, duration, ← add_assoc, ← past_rat forward] at before
      have rest := duration_nonneg forward.next
        (if (pattern 0 command).failure.isSome then [] else pattern.next.throughFailure commands)
      have inTime : ¬Late (some limit) (pattern.past clock command) := by
        rintro ⟨_, ⟨⟩, late⟩
        exact late (lt_of_le_of_lt (le_add_of_nonneg_right rest) before)
      rw [fate, if_neg inTime, failure?]
      cases failed : (pattern 0 command).failure with
      | some message => rfl
      | none =>
          rw [failed] at before
          exact induction forward.next before

theorem fate_beyond (forward : pattern.Forward) (begun : clock < limit)
    (beyond : limit < clock + pattern.duration (pattern.throughFailure commands)) :
    pattern.fate (some limit) clock commands = .outOfTime := by
  induction commands generalizing pattern clock with
  | nil => exact absurd (begun.trans beyond) (by simp [throughFailure, duration])
  | cons command commands induction =>
      rw [throughFailure, duration, ← add_assoc, ← past_rat forward] at beyond
      rw [fate]
      by_cases late : Late (some limit) (pattern.past clock command)
      · rw [if_pos late]
      · have inTime : pattern.past clock command < limit :=
          Decidable.byContradiction fun notBefore => late ⟨limit, rfl, notBefore⟩
        rw [if_neg late]
        cases failed : (pattern 0 command).failure with
        | some message =>
            rw [failed] at beyond
            exact absurd (inTime.trans beyond) (by simp [duration])
        | none =>
            rw [failed] at beyond
            exact induction forward.next inTime beyond

theorem through_failure_calm (commands : List Command) :
    throughFailure (fun _ => (Conditions.calm : Conditions ℚ)) commands = commands := by
  induction commands with
  | nil => rfl
  | cons command commands induction => exact congrArg (command :: ·) induction

theorem failure_calm (commands : List Command) :
    failure? (fun _ => (Conditions.calm : Conditions ℚ)) commands = none := by
  induction commands with
  | nil => rfl
  | cons command commands induction => exact induction

end Pattern

/-! ### Commands written down -/

structure Logged (World : Type) where
  world : World
  issued : List Command

section

variable {Time World : Type}

def Host.logged (host : Host Time World) : Host Time (Logged World) where
  clock := fun logged => host.clock logged.world
  store := fun logged => host.store logged.world
  issue := fun deadline command logged =>
    let (world, ended) := host.issue deadline command logged.world
    (⟨world, logged.issued ++ [command]⟩, ended)
  budget := fun logged => host.budget logged.world

/-- The list has no influence on a reading. -/
theorem Reading.run_logged (host : Host Time World) (deadline : Option Time) (budget : ℕ)
    (logged : Logged World) (reading : Reading) :
    ((run host.logged deadline budget logged reading).1.world,
        (run host.logged deadline budget logged reading).2) =
      run host deadline budget logged.world reading := by
  induction budget generalizing logged reading with
  | zero => rfl
  | succ budget induction =>
      have issues : host.logged.issue deadline reading.command logged =
          (⟨(host.issue deadline reading.command logged.world).1,
            logged.issued ++ [reading.command]⟩,
            (host.issue deadline reading.command logged.world).2) := rfl
      rw [run, run, issues]
      generalize host.issue deadline reading.command logged.world = ended
      obtain ⟨world, how⟩ := ended
      cases how with
      | refused message => rfl
      | outOfTime => rfl
      | answered =>
          have stored : host.logged.store ⟨world, logged.issued ++ [reading.command]⟩ =
              host.store world := rfl
          simp only [stored]
          cases reading.advance (host.store world) with
          | error error => rfl
          | ok progress =>
              cases progress with
              | done snapshots => rfl
              | more next => exact induction ⟨world, logged.issued ++ [reading.command]⟩ next

end

/-- Without a time limit a reading issues the commands of its course up to the first that fails. -/
theorem Patterned.run_issues (budget : ℕ) (world : Patterned ℚ) (issued : List Command)
    (reading : Reading) :
    (Reading.run host.logged none budget ⟨world, issued⟩ reading).1.issued =
      issued ++ world.pattern.throughFailure (reading.course world.board.store budget) := by
  induction budget generalizing world issued reading with
  | zero => exact (List.append_nil issued).symm
  | succ budget induction =>
      have inTime : ¬Late none (world.pattern.past world.board.clock reading.command) := by
        simp [Late]
      have issues : host.logged.issue none reading.command ⟨world, issued⟩ =
          (⟨world.afterDelay reading.command, issued ++ [reading.command]⟩,
            Issued.ofFailure (world.pattern 0 reading.command).failure) :=
        congrArg (fun ended : Patterned ℚ × Issued =>
          ((⟨ended.1, issued ++ [reading.command]⟩ : Logged (Patterned ℚ)), ended.2))
          (issue_in_time inTime)
      have stored : host.logged.store
          ⟨world.afterDelay reading.command, issued ++ [reading.command]⟩ = world.board.store := rfl
      rw [Reading.run, issues, Reading.course, Pattern.throughFailure]
      cases (world.pattern 0 reading.command).failure with
      | some message => rfl
      | none =>
          simp only [Issued.ofFailure, stored]
          cases reading.advance world.board.store with
          | error error => rfl
          | ok progress =>
              cases progress with
              | done snapshots => rfl
              | more next =>
                  refine (induction (world.afterDelay reading.command) _ next).trans ?_
                  exact List.append_assoc issued [reading.command] _

/-- A reading from a cutoff takes a command for the index and, if that names anything, one for the
records. -/
theorem Reading.course_since {store : Store} {cutoff : DateTime}
    (named : store.index.ascendingFrom cutoff.epochMs ≠ []) (budget : ℕ) :
    course store (budget + 2) (since cutoff) = [.ascending, .load] := by
  cases members : store.index.ascendingFrom cutoff.epochMs with
  | nil => exact absurd members named
  | cons first rest =>
      have loads : course store (budget + 1) (.sinceRecords (first :: rest)) = [.load] := by
        rw [course, advance]
        cases store.load (first :: rest) <;> rfl
      rw [since, course, advance, members]
      exact congrArg (Command.ascending :: ·) loads

end PriceBoard
