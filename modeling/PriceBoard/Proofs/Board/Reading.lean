import PriceBoard.Board.Basic
import PriceBoard.Proofs.Store.Course

/-!
# Readings of the board

Where the commands of a reading answer, it ends as its course does: no reading changes the store.
-/
namespace PriceBoard.Board

variable {Time : Type} [Timeline Time]

def afterDelay (board : Board Time) (command : Command) : Board Time :=
  { board with clock := Timeline.wait board.clock (board.conditions command).delay }

theorem issue_answered {board : Board Time} {command : Command}
    (answers : (board.conditions command).failure = none) :
    host.issue none command board = (board.afterDelay command, .answered) := by
  change board.issue none command = _
  rw [issue, attempt]
  simp only [answers, Issued.ofFailure]
  rfl

theorem run_answered {board : Board Time} {reading : Reading}
    (answers : ∀ command ∈ reading.commands, (board.conditions command).failure = none)
    (budget : ℕ) :
    (Reading.run host none budget board reading).2 = reading.outcome board.store budget := by
  induction budget generalizing board reading with
  | zero => rfl
  | succ budget induction =>
      have stored : host.store (board.afterDelay reading.command) = board.store := rfl
      rw [Reading.run, issue_answered (answers _ reading.command_mem_commands), Reading.outcome]
      simp only [stored]
      cases advanced : reading.advance board.store with
      | error error => rfl
      | ok progress =>
          cases progress with
          | done snapshots => rfl
          | more next =>
              rw [← Reading.advance_commands advanced] at answers
              exact @induction (board.afterDelay reading.command) next answers

theorem read_done (board : Board Time) (kind : QueryKind) (snapshots : List Snapshot) :
    (board.read kind (.ok (.done snapshots))).2 = .ok snapshots := rfl

theorem read_found {board : Board Time} {reading : Reading} {found : List Snapshot}
    (kind : QueryKind)
    (answers : ∀ command ∈ reading.commands, (board.conditions command).failure = none)
    (ends : reading.outcome board.store (2 * board.store.index.length + 2) = .found found) :
    (board.read kind (.ok (.more reading))).2 = .ok found := by
  change (History.outcomeAnswer kind ""
    (Reading.run host none (2 * board.store.index.length + 2) board reading).2).mapError _ = _
  rw [run_answered answers, ends]
  rfl

end PriceBoard.Board
