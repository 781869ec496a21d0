import PriceBoard.History

/-!
# What queries keep

A query changes the world it runs in only by issuing commands. Whatever each command keeps, readings and
queries keep as well.
-/
namespace PriceBoard

variable {Time World : Type} {Keeps : World → Prop} {host : Host Time World}
  (issues : ∀ deadline command world, Keeps world → Keeps (host.issue deadline command world).1)
include issues

theorem Reading.run_keeps (deadline : Option Time) (budget : Nat) {world : World} (kept : Keeps world)
    (reading : Reading) : Keeps (run host deadline budget world reading).1 := by
  induction budget generalizing world reading with
  | zero => exact kept
  | succ budget induction =>
      have issued := issues deadline reading.command world kept
      rw [run]
      generalize host.issue deadline reading.command world = ended at issued ⊢
      obtain ⟨after, answer⟩ := ended
      cases answer with
      | refused message => exact issued
      | outOfTime => exact issued
      | answered =>
          dsimp only
          cases reading.advance (host.store after) with
          | error error => exact issued
          | ok progress =>
              cases progress with
              | done snapshots => exact issued
              | more next => exact induction issued next

theorem Reading.run_progress_keeps (deadline : Option Time) {world : World} (kept : Keeps world)
    (progress : Progress) : Keeps (runProgress host deadline world progress).1 := by
  cases progress with
  | done snapshots => exact kept
  | more reading => exact run_keeps issues deadline _ kept reading

variable [Timeline Time] {world : World} (kept : Keeps world)
include kept

theorem History.limited_call_keeps (kind : QueryKind) (deadline : Option (Deadline Time))
    (begins : Except TimeError Progress) :
    Keeps (limitedCall host kind world deadline begins).1 := by
  unfold limitedCall
  cases deadline with
  | none =>
      cases begins with
      | error error => exact kept
      | ok progress => exact Reading.run_progress_keeps issues none kept progress
  | some deadline =>
      dsimp only
      split
      · cases begins with
        | error error => exact kept
        | ok progress => exact Reading.run_progress_keeps issues _ kept progress
      · exact kept

theorem History.call_keeps (kind : QueryKind) (deadline : Option (Deadline Time))
    (begins : Except TimeError Progress) : Keeps (call host kind world deadline begins).world :=
  limited_call_keeps issues kept kind deadline begins

theorem History.of_window_keeps (now : DateTime) (choice : WindowChoice)
    (deadline : Option (Deadline Time)) : Keeps (ofWindow host now world choice deadline).world := by
  unfold ofWindow
  cases windowCutoff choice now with
  | error error => exact kept
  | ok cutoff => exact call_keeps issues kept .window deadline _

theorem History.search_keeps (context : Query.Context) (limit batch : Int) (query : String)
    (deadline : Option (Deadline Time)) :
    Keeps (search host context limit batch world query deadline).world := by
  unfold search
  cases compile context query with
  | error error => exact kept
  | ok predicate =>
      dsimp only
      rcases predicate.contradictory with error | (_ | _)
      · exact kept
      · exact call_keeps issues kept .predicate deadline _
      · exact kept

end PriceBoard
