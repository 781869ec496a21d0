import PriceBoard.Proofs.Board.Reading

/-!
# Patterns of failing and slow commands

Each command may meet conditions of its own, whatever the ones before it have met. What becomes of a
reading is decided by the first of its commands that fails or ends too late; where there is none, it ends
as its course does.
-/
namespace PriceBoard

/-- How a reading ends whose commands end like this; `outcome` is how it ends where all of them answer. -/
def ReadOutcome.after (outcome : ReadOutcome) : Issued → ReadOutcome
  | .answered => outcome
  | .refused message => .refused message
  | .outOfTime => .outOfTime

/-! ### Commands one after the other -/

/-- The conditions that each command to come meets, the next one first. -/
abbrev Pattern (Time : Type) := Nat → Conditions Time

namespace Pattern

variable {Time : Type}

def next (pattern : Pattern Time) : Pattern Time := fun count => pattern (count + 1)

variable [Timeline Time]

def past (pattern : Pattern Time) (clock : Time) (command : Command) : Time :=
  Timeline.wait clock (pattern 0 command).delay

def pastAll : Pattern Time → Time → List Command → Time
  | _, clock, [] => clock
  | pattern, clock, command :: commands => pastAll pattern.next (pattern.past clock command) commands

end Pattern

section

variable {Time : Type} [Timeline Time]

def Late (deadline : Option Time) (clock : Time) : Prop := ∃ limit ∈ deadline, ¬clock < limit

instance (deadline : Option Time) (clock : Time) : Decidable (Late deadline clock) :=
  inferInstanceAs (Decidable (∃ limit ∈ deadline, ¬clock < limit))

namespace Pattern

/-- How commands end that are issued one after the other, up to the first that does not answer. -/
def fate (deadline : Option Time) : Pattern Time → Time → List Command → Issued
  | _, _, [] => .answered
  | pattern, clock, command :: commands =>
    if Late deadline (pattern.past clock command) then .outOfTime
    else
      match (pattern 0 command).failure with
      | some message => .refused message
      | none => fate deadline pattern.next (pattern.past clock command) commands

def Timely (pattern : Pattern Time) (deadline : Option Time) (clock : Time)
    (commands : List Command) : Prop :=
  ∀ earlier command, earlier ++ [command] <+: commands →
    (pattern earlier.length command).failure = none ∧
      ¬Late deadline (pattern.pastAll clock (earlier ++ [command]))

/-- After commands that answer in time comes one that fails in time. -/
def FailsInTime (pattern : Pattern Time) (deadline : Option Time) (clock : Time)
    (commands : List Command) : Prop :=
  ∃ earlier command, earlier ++ [command] <+: commands ∧ pattern.Timely deadline clock earlier ∧
    (∃ message, (pattern earlier.length command).failure = some message) ∧
    ¬Late deadline (pattern.pastAll clock (earlier ++ [command]))

/-- After commands that answer in time comes one during which the deadline passes. -/
def Expires (pattern : Pattern Time) (deadline : Option Time) (clock : Time)
    (commands : List Command) : Prop :=
  ∃ earlier command, earlier ++ [command] <+: commands ∧ pattern.Timely deadline clock earlier ∧
    Late deadline (pattern.pastAll clock (earlier ++ [command]))

variable {pattern : Pattern Time} {deadline : Option Time} {clock : Time} {command : Command}
  {commands : List Command}

theorem timely_nil : pattern.Timely deadline clock [] := by
  intro earlier command isPrefix
  have nonempty := List.prefix_nil.mp isPrefix
  exact absurd nonempty (List.append_ne_nil_of_right_ne_nil _ (List.cons_ne_nil _ _))

theorem prefix_cons_cases {earlier : List Command} {other : Command}
    (isPrefix : earlier ++ [other] <+: command :: commands) :
    (earlier = [] ∧ other = command) ∨
      ∃ rest, earlier = command :: rest ∧ rest ++ [other] <+: commands := by
  cases earlier with
  | nil =>
      obtain ⟨same, _⟩ := List.cons_prefix_cons.mp isPrefix
      exact .inl ⟨rfl, same⟩
  | cons first rest =>
      obtain ⟨same, inside⟩ := List.cons_prefix_cons.mp isPrefix
      exact .inr ⟨rest, by rw [same], inside⟩

theorem prefix_first : [] ++ [command] <+: command :: commands :=
  List.cons_prefix_cons.mpr ⟨rfl, List.nil_prefix⟩

theorem timely_cons : pattern.Timely deadline clock (command :: commands) ↔
    (pattern 0 command).failure = none ∧ ¬Late deadline (pattern.past clock command) ∧
      pattern.next.Timely deadline (pattern.past clock command) commands := by
  constructor
  · intro timely
    obtain ⟨answers, inTime⟩ := timely [] command prefix_first
    refine ⟨answers, inTime, fun earlier other isPrefix => ?_⟩
    exact timely (command :: earlier) other (List.cons_prefix_cons.mpr ⟨rfl, isPrefix⟩)
  · rintro ⟨answers, inTime, rest⟩ earlier other isPrefix
    rcases prefix_cons_cases isPrefix with ⟨rfl, rfl⟩ | ⟨earlier, rfl, inside⟩
    · exact ⟨answers, inTime⟩
    · exact rest earlier other inside

theorem fate_answered_iff :
    pattern.fate deadline clock commands = .answered ↔ pattern.Timely deadline clock commands := by
  induction commands generalizing pattern clock with
  | nil => exact ⟨fun _ => timely_nil, fun _ => rfl⟩
  | cons command commands induction =>
      rw [timely_cons, fate, ← induction]
      by_cases late : Late deadline (pattern.past clock command)
      · simp [late]
      · cases (pattern 0 command).failure <;> simp [late]

theorem fails_in_time_cons : pattern.FailsInTime deadline clock (command :: commands) ↔
    ¬Late deadline (pattern.past clock command) ∧
      ((∃ message, (pattern 0 command).failure = some message) ∨
        ((pattern 0 command).failure = none ∧
          pattern.next.FailsInTime deadline (pattern.past clock command) commands)) := by
  constructor
  · rintro ⟨earlier, other, isPrefix, timely, fails, inTime⟩
    rcases prefix_cons_cases isPrefix with ⟨rfl, rfl⟩ | ⟨earlier, rfl, inside⟩
    · exact ⟨inTime, .inl fails⟩
    · obtain ⟨answers, firstInTime, rest⟩ := timely_cons.mp timely
      exact ⟨firstInTime, .inr ⟨answers, earlier, other, inside, rest, fails, inTime⟩⟩
  · rintro ⟨inTime, fails | ⟨answers, earlier, other, inside, rest, fails, later⟩⟩
    · exact ⟨[], command, prefix_first, timely_nil, fails, inTime⟩
    · exact ⟨command :: earlier, other, List.cons_prefix_cons.mpr ⟨rfl, inside⟩,
        timely_cons.mpr ⟨answers, inTime, rest⟩, fails, later⟩

theorem expires_cons : pattern.Expires deadline clock (command :: commands) ↔
    Late deadline (pattern.past clock command) ∨
      ((pattern 0 command).failure = none ∧
        pattern.next.Expires deadline (pattern.past clock command) commands) := by
  constructor
  · rintro ⟨earlier, other, isPrefix, timely, late⟩
    rcases prefix_cons_cases isPrefix with ⟨rfl, rfl⟩ | ⟨earlier, rfl, inside⟩
    · exact .inl late
    · obtain ⟨answers, _, rest⟩ := timely_cons.mp timely
      exact .inr ⟨answers, earlier, other, inside, rest, late⟩
  · intro expires
    by_cases late : Late deadline (pattern.past clock command)
    · exact ⟨[], command, prefix_first, timely_nil, late⟩
    · obtain ⟨answers, earlier, other, inside, rest, later⟩ := expires.resolve_left late
      exact ⟨command :: earlier, other, List.cons_prefix_cons.mpr ⟨rfl, inside⟩,
        timely_cons.mpr ⟨answers, late, rest⟩, later⟩

theorem fate_refused_iff :
    (∃ message, pattern.fate deadline clock commands = .refused message) ↔
      pattern.FailsInTime deadline clock commands := by
  induction commands generalizing pattern clock with
  | nil => simp [fate, FailsInTime]
  | cons command commands induction =>
      rw [fails_in_time_cons, fate, ← induction]
      by_cases late : Late deadline (pattern.past clock command)
      · simp [late]
      · cases (pattern 0 command).failure <;> simp [late]

theorem fate_out_of_time_iff :
    pattern.fate deadline clock commands = .outOfTime ↔ pattern.Expires deadline clock commands := by
  induction commands generalizing pattern clock with
  | nil => simp [fate, Expires]
  | cons command commands induction =>
      rw [expires_cons, fate, ← induction]
      by_cases late : Late deadline (pattern.past clock command)
      · simp [late]
      · cases (pattern 0 command).failure <;> simp [late]

end Pattern

end

/-! ### Readings -/

structure Patterned (Time : Type) where
  board : Board Time
  pattern : Pattern Time

namespace Patterned

variable {Time : Type} [Timeline Time]

/-- The conditions of the board itself are those that the next command meets. -/
def issue (deadline : Option Time) (command : Command) (world : Patterned Time) :
    Patterned Time × Issued :=
  let (board, issued) :=
    ({ world.board with conditions := world.pattern 0 } : Board Time).issue deadline command
  (⟨board, world.pattern.next⟩, issued)

def host : Host Time (Patterned Time) where
  clock := fun world => world.board.clock
  store := fun world => world.board.store
  issue := issue
  budget := fun world => Board.host.budget world.board

def afterDelay (world : Patterned Time) (command : Command) : Patterned Time :=
  ⟨({ world.board with conditions := world.pattern 0 } : Board Time).afterDelay command,
    world.pattern.next⟩

variable {world : Patterned Time} {deadline : Option Time} {command : Command}

theorem issue_limited (limit : Time) :
    host.issue (some limit) command world =
      if world.pattern.past world.board.clock command < limit then
        (world.afterDelay command, Issued.ofFailure (world.pattern 0 command).failure)
      else (⟨{ world.board with conditions := world.pattern 0, clock := limit },
        world.pattern.next⟩, .outOfTime) := by
  have issued : ({ world.board with conditions := world.pattern 0 } : Board Time).issue (some limit)
      command = if world.pattern.past world.board.clock command < limit then
        ((world.afterDelay command).board, Issued.ofFailure (world.pattern 0 command).failure)
      else ({ world.board with conditions := world.pattern 0, clock := limit }, .outOfTime) := rfl
  change issue (some limit) command world = _
  rw [issue, issued]
  split_ifs <;> rfl

theorem issue_late (late : Late deadline (world.pattern.past world.board.clock command)) :
    (host.issue deadline command world).2 = .outOfTime := by
  obtain ⟨limit, isLimit, notBefore⟩ := late
  cases isLimit
  rw [issue_limited, if_neg notBefore]

theorem issue_in_time (inTime : ¬Late deadline (world.pattern.past world.board.clock command)) :
    host.issue deadline command world =
      (world.afterDelay command, Issued.ofFailure (world.pattern 0 command).failure) := by
  cases deadline with
  | none => rfl
  | some limit =>
      have before : world.pattern.past world.board.clock command < limit :=
        Decidable.byContradiction fun notBefore => inTime ⟨limit, rfl, notBefore⟩
      rw [issue_limited, if_pos before]

/-- A reading ends like the first of its commands that does not answer in time, or else as its course
ends. -/
theorem run_eq_fate (deadline : Option Time) (budget : Nat) (world : Patterned Time)
    (reading : Reading) :
    (Reading.run host deadline budget world reading).2 =
      (reading.outcome world.board.store budget).after
        (world.pattern.fate deadline world.board.clock
          (reading.course world.board.store budget)) := by
  induction budget generalizing world reading with
  | zero => rfl
  | succ budget induction =>
      rw [Reading.run, Reading.course, Reading.outcome, Pattern.fate]
      by_cases late : Late deadline (world.pattern.past world.board.clock reading.command)
      · have ended := issue_late late
        rw [if_pos late]
        generalize host.issue deadline reading.command world = issued at ended
        obtain ⟨after, how⟩ := issued
        cases ended
        rfl
      · rw [if_neg late, issue_in_time late]
        have stored : host.store (world.afterDelay reading.command) = world.board.store := rfl
        cases (world.pattern 0 reading.command).failure with
        | some message => rfl
        | none =>
            simp only [Issued.ofFailure, stored]
            cases reading.advance world.board.store with
            | error error => rfl
            | ok progress =>
                cases progress with
                | done snapshots => rfl
                | more next => exact induction (world.afterDelay reading.command) next

def needed (world : Patterned Time) (progress : Progress) : List Command :=
  progress.course world.board.store (2 * world.board.store.index.length + 2)

def fate (world : Patterned Time) (deadline : Deadline Time) (progress : Progress) : Issued :=
  world.pattern.fate (some (world.board.clock + deadline.limit)) world.board.clock
    (world.needed progress)

def Timely (world : Patterned Time) (deadline : Deadline Time) (progress : Progress) : Prop :=
  world.pattern.Timely (some (world.board.clock + deadline.limit)) world.board.clock
    (world.needed progress)

def FailsInTime (world : Patterned Time) (deadline : Deadline Time) (progress : Progress) : Prop :=
  world.pattern.FailsInTime (some (world.board.clock + deadline.limit)) world.board.clock
    (world.needed progress)

def Expires (world : Patterned Time) (deadline : Deadline Time) (progress : Progress) : Prop :=
  world.pattern.Expires (some (world.board.clock + deadline.limit)) world.board.clock
    (world.needed progress)

theorem call_answer {deadline : Deadline Time} (positive : 0 < deadline.limit) (kind : QueryKind)
    {progress : Progress} {found : List Snapshot}
    (ends : progress.outcome world.board.store (2 * world.board.store.index.length + 2) =
      .found found) :
    (History.call host kind world (some deadline) (.ok progress)).answer =
      History.outcomeAnswer kind deadline.written
        ((ReadOutcome.found found).after (world.fate deadline progress)) := by
  have ran : (Reading.runProgress host (some (world.board.clock + deadline.limit)) world
      progress).2 = (ReadOutcome.found found).after (world.fate deadline progress) := by
    cases progress with
    | done snapshots => exact ends
    | more reading =>
        refine (run_eq_fate _ _ world reading).trans ?_
        rw [← ends]
        rfl
  rw [← ran]
  change (History.limitedCall host kind world (some deadline) (.ok progress)).2 = _
  rw [History.limitedCall]
  exact congrArg Prod.snd (if_pos positive)

end Patterned

end PriceBoard
