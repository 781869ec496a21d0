import PriceBoard.Proofs.Query.Connectives
import PriceBoard.Proofs.Query.RoundTrip
import PriceBoard.Proofs.Window.Grammar

/-!
# Two spellings of a relative window

A clause that looks back so many minutes, hours or days has the cutoff of the window token with the same
amount and the suffix of the unit. Where the amount has too many digits, or reaches back beyond the year 1,
neither has one, and for the same reason.
-/
namespace PriceBoard.Query

open PriceBoard.Decimal PriceBoard.Text

def SpanUnit.windowUnit : SpanUnit → WindowUnit
  | .minute => .minute
  | .hour => .hour
  | .day => .day

theorem seconds_of_ms (unit : SpanUnit) : unit.windowUnit.seconds * 1000 = unit.ms := by
  cases unit <;> rfl

section

variable (amount : Digits) (unit : UnitWord)

def withinLast : List Char :=
  "timestamp within last".toList ++ ' ' :: (amount.chars ++ ' ' :: unit.text)

def windowToken : List Char := amount.chars ++ unit.unit.windowUnit.suffix

/-! ### The clause -/

theorem within_last_words :
    withinLast amount unit = spaced (Saying.withinLast amount unit).words := rfl

theorem read_within_last (context : Context) :
    readClause Rule.all context (withinLast amount unit) =
      (cutoff context amount.chars unit.unit).map fun cutoff => some (.timeWithinLast cutoff) := by
  have recognised : recognise? Rule.all (spaced (Saying.withinLast amount unit).words) =
      some (.withinLast amount.chars unit.unit) :=
    @recognise_first .withinLast _ _ (silent_before_within_last amount unit)
      (saying_found (.withinLast amount unit))
  rw [readClause, within_last_words, lowercase_trim_quiet (saying_quiet _), recognised]
  rfl

/-! ### The token -/

theorem window_token_writes :
    Window.Writes (windowToken amount unit) amount.chars unit.unit.windowUnit :=
  Window.writes_ascii amount.nonempty amount.ascii _

variable {amount}

theorem window_token_read (short : amount.chars.length ≤ digitLimit) (positive : 1 ≤ amount.value) :
    Window.readOrDefault (some (String.ofList (windowToken amount unit))) =
      .ok ⟨amount.value, unit.unit.windowUnit, positive⟩ := by
  have read : Window.read (windowToken amount unit) =
      .ok (some ⟨amount.value, unit.unit.windowUnit, positive⟩) :=
    Window.read_window_iff.mpr
      ⟨amount.chars, window_token_writes amount unit, short, Window.digits_value_ascii amount.ascii⟩
  rw [Window.readOrDefault, Window.read?, String.toList_ofList, read]
  rfl

theorem window_token_refused (long : digitLimit < amount.chars.length) :
    Window.readOrDefault (some (String.ofList (windowToken amount unit))) =
      .error .tooManyDigits := by
  have refused : Window.read (windowToken amount unit) = .error .tooManyDigits :=
    Window.read_error_iff.mpr ⟨rfl, amount.chars, _, window_token_writes amount unit, long⟩
  rw [Window.readOrDefault, Window.read?, String.toList_ofList, refused]
  rfl

end

/-! ### The cutoffs -/

/-- Milliseconds times an amount and an amount times seconds are the same span. -/
theorem window_micros {unit : SpanUnit} {value : ℕ} (positive : 1 ≤ value) :
    Window.micros ⟨value, unit.windowUnit, positive⟩ = value * unit.ms * 1000 := by
  rw [Window.micros, Window.seconds, ← seconds_of_ms]
  ring

theorem cutoff_eq_window {context : Context} {amount : List Char} {unit : SpanUnit} {value : ℕ}
    (read : readDigits amount = .ok value) (positive : 1 ≤ value) :
    cutoff context amount unit =
      (Window.cutoff ⟨value, unit.windowUnit, positive⟩ context.now).mapError .time := by
  rw [Window.cutoff_eq, window_micros, ← bind_map_error, cutoff, span, read]

/-- What becomes of a clause and of a window token: both have the cutoff, or both fail for the same
reason. -/
inductive SameCutoff : Except ClauseError (Option Predicate) → Except HistoryError DateTime → Prop
  | found (cutoff : DateTime) : SameCutoff (.ok (some (.timeWithinLast cutoff))) (.ok cutoff)
  | tooManyDigits : SameCutoff (.error .tooManyDigits) (.error .tokenTooLong)
  | time (error : TimeError) : SameCutoff (.error (.time error)) (.error (.time error))

theorem SameCutoff.of_window {clause : Except ClauseError (Option Predicate)} {cutoff : DateTime}
    (same : SameCutoff clause (.ok cutoff)) : clause = .ok (some (.timeWithinLast cutoff)) := by
  cases same with
  | found => rfl

section

variable (context : Context) {amount : Digits} (unit : UnitWord) (positive : 1 ≤ amount.value)

include positive

theorem spellings_found (short : amount.chars.length ≤ digitLimit)
    (reaches : amount.value * unit.unit.ms * 1000 ≤ context.now.wall.micros) :
    let earlier := ago context.now (amount.value * unit.unit.ms * 1000)
    readClause Rule.all context (withinLast amount unit) = .ok (some (.timeWithinLast earlier)) ∧
      History.windowCutoff (.token (some (String.ofList (windowToken amount unit)))) context.now =
        .ok earlier := by
  intro earlier
  have read : readDigits amount.chars = .ok amount.value :=
    read_digits_of_ascii amount.nonempty amount.ascii short
  have found : cutoff context amount.chars unit.unit = .ok earlier := cutoff_ago read reaches
  constructor
  · rw [read_within_last, found]
    rfl
  · rw [History.token_cutoff_of_read (window_token_read unit short positive)]
    rw [cutoff_eq_window read positive] at found
    rw [ok_of_map_error found]
    rfl

theorem spellings_refused (unfit : ¬(amount.chars.length ≤ digitLimit ∧
      amount.value * unit.unit.ms * 1000 ≤ context.now.wall.micros)) :
    let window := History.windowCutoff (.token (some (String.ofList (windowToken amount unit))))
      context.now
    SameCutoff (readClause Rule.all context (withinLast amount unit)) window ∧
      ∃ error, window = .error error := by
  intro window
  rw [read_within_last]
  by_cases short : amount.chars.length ≤ digitLimit
  · have read : readDigits amount.chars = .ok amount.value :=
      read_digits_of_ascii amount.nonempty amount.ascii short
    have exceeds : Window.cutoff ⟨amount.value, unit.unit.windowUnit, positive⟩ context.now =
        .error .outOfRange := by
      apply Window.cutoff_of_exceeds
      rw [window_micros]
      exact Nat.lt_of_not_le fun reaches => unfit ⟨short, reaches⟩
    have windowIs : window = _ :=
      History.token_cutoff_of_read (window_token_read unit short positive)
    rw [exceeds] at windowIs
    rw [cutoff_eq_window read positive, exceeds, windowIs]
    exact ⟨.time .outOfRange, _, rfl⟩
  · have tooMany : readDigits amount.chars = .error .tooManyDigits := by
      rw [Window.read_digits amount.nonempty fun char member =>
        digit_of_ascii_digit (amount.ascii char member), if_neg short]
    have windowIs : window = _ := History.token_cutoff_too_long
      (window_token_refused unit (Nat.lt_of_not_le short))
    rw [cutoff, span, tooMany, windowIs]
    exact ⟨.tooManyDigits, _, rfl⟩

/-- The clause and the token come to the same. They have a cutoff exactly where the amount has not too
many digits and does not reach back beyond the year 1. -/
theorem spellings_share_cutoff :
    let micros := amount.value * unit.unit.ms * 1000
    let clause := readClause Rule.all context (withinLast amount unit)
    let window := History.windowCutoff (.token (some (String.ofList (windowToken amount unit))))
      context.now
    SameCutoff clause window ∧
      ((∃ cutoff, window = .ok cutoff) ↔
        amount.chars.length ≤ digitLimit ∧ micros ≤ context.now.wall.micros) ∧
      ∀ cutoff, window = .ok cutoff → cutoff = ago context.now micros := by
  intro micros clause window
  by_cases fits : amount.chars.length ≤ digitLimit ∧ micros ≤ context.now.wall.micros
  · obtain ⟨clauseIs, windowIs⟩ := spellings_found context unit positive fits.1 fits.2
    change clause = .ok (some (.timeWithinLast (ago context.now micros))) at clauseIs
    change window = .ok (ago context.now micros) at windowIs
    rw [clauseIs, windowIs]
    refine ⟨.found _, ⟨fun _ => fits, fun _ => ⟨_, rfl⟩⟩, ?_⟩
    intro cutoff same
    exact (Except.ok.inj same).symm
  · obtain ⟨same, error, refused⟩ := spellings_refused context unit positive fits
    change window = .error error at refused
    refine ⟨same, ⟨?_, fun fit => absurd fit fits⟩, ?_⟩
    · rintro ⟨cutoff, found⟩
      cases refused.symm.trans found
    · intro cutoff found
      cases refused.symm.trans found

end

/-- At noon on 2 January of the year 1 both look back 36 hours, written with a zero in front. -/
theorem spellings_share_cutoff_of_hours :
    let amount : Digits := ⟨['0', '3', '6'], by decide, List.all_eq_true.mp rfl⟩
    1 ≤ amount.value ∧
      readClause Rule.all secondNoon (withinLast amount .hours) =
        .ok (some (.timeWithinLast ⟨⟨0, by decide⟩, some Offset.utc⟩)) ∧
      History.windowCutoff (.token (some (String.ofList (windowToken amount .hours))))
        secondNoon.now = .ok ⟨⟨0, by decide⟩, some Offset.utc⟩ := by
  intro amount
  have positive : 1 ≤ amount.value := by decide
  have value : amount.value = 36 := rfl
  have unit : UnitWord.hours.unit.ms = 3600000 := rfl
  obtain ⟨same, iff, cutoffIs⟩ := spellings_share_cutoff secondNoon .hours positive
  rw [value, unit] at iff cutoffIs
  have short : amount.chars.length ≤ digitLimit := (by decide : 3 ≤ 4300)
  have reaches : 129600000000 ≤ secondNoon.now.wall.micros := Nat.le_refl _
  obtain ⟨cutoff, found⟩ := iff.mpr ⟨short, reaches⟩
  rw [found] at same
  have start : cutoff = ⟨⟨0, by decide⟩, some Offset.utc⟩ := cutoffIs cutoff found
  rw [start] at found same
  exact ⟨positive, same.of_window, found⟩

end PriceBoard.Query
