import PriceBoard.History
import PriceBoard.Proofs.Calendar.Instant
import PriceBoard.Proofs.Results
import PriceBoard.Proofs.Text.Plain
import Mathlib.Data.List.TakeWhile

/-!
# What becomes of a window token

A token writes a number of a unit, or else it stands for the default window. A number of too many digits
is not read, and a window that is longer than the time since the year 1 has no cutoff. No other token
fails.
-/
namespace PriceBoard

open PriceBoard.Decimal PriceBoard.Text

namespace Window

/-! ### Reading -/

def digitsValue (digits : List Char) : ℕ := ofDigits (digits.filterMap digit?)

/-- A token of digits and the suffix of a unit, perhaps with blanks around it. -/
structure Writes (token digits : List Char) (unit : WindowUnit) : Prop where
  nonempty : digits ≠ []
  areDigits : ∀ char ∈ digits, isDigit char = true
  split : trim token = digits ++ unit.suffix

theorem map_digits {digits : List Char} (areDigits : ∀ char ∈ digits, isDigit char = true) :
    digits.mapM digit? = some (digits.filterMap digit?) ∧
      (digits.filterMap digit?).length = digits.length := by
  induction digits with
  | nil => exact ⟨rfl, rfl⟩
  | cons char rest induction =>
      obtain ⟨value, known⟩ := Option.isSome_iff_exists.mp (areDigits char List.mem_cons_self)
      obtain ⟨others, length⟩ := induction fun other member =>
        areDigits other (List.mem_cons_of_mem _ member)
      rw [List.mapM_cons, List.filterMap_cons, known, others]
      exact ⟨rfl, congrArg (· + 1) length⟩

theorem read_digits {digits : List Char} (nonempty : digits ≠ [])
    (areDigits : ∀ char ∈ digits, isDigit char = true) :
    readDigits digits = if digits.length ≤ digitLimit then .ok (digitsValue digits)
      else .error .tooManyDigits := by
  obtain ⟨known, length⟩ := map_digits areDigits
  rw [readDigits, known, ← length]
  have some : digits.filterMap digit? ≠ [] := by
    rw [← List.length_pos_iff, length]
    exact List.length_pos_iff.mpr nonempty
  rw [digitsValue]
  generalize digits.filterMap digit? = values at some
  cases values with
  | nil => exact absurd rfl some
  | cons value rest => rfl

theorem suffix_not_digit (unit : WindowUnit) : ∀ char ∈ unit.suffix.head?, isDigit char = false := by
  intro char first
  cases unit <;> cases first <;> decide

theorem of_suffix_suffix (unit : WindowUnit) : WindowUnit.ofSuffix? unit.suffix = some unit := by
  cases unit <;> rfl

variable {token digits : List Char} {unit : WindowUnit}

theorem Writes.scan (writes : Writes token digits unit) :
    (trim token).takeWhile isDigit = digits ∧
      WindowUnit.ofSuffix? ((trim token).dropWhile isDigit) = some unit := by
  obtain ⟨front, rest⟩ := scan_append writes.areDigits (suffix_not_digit unit)
  rw [writes.split, front, rest]
  exact ⟨rfl, of_suffix_suffix unit⟩

theorem Writes.unique {others : List Char} {other : WindowUnit} (writes : Writes token digits unit)
    (also : Writes token others other) : digits = others ∧ unit = other := by
  obtain ⟨front, rest⟩ := writes.scan
  rw [also.scan.1] at front
  rw [also.scan.2] at rest
  exact ⟨front.symm, (Option.some.inj rest).symm⟩

theorem writes_of_scan (nonempty : (trim token).takeWhile isDigit ≠ [])
    (known : WindowUnit.ofSuffix? ((trim token).dropWhile isDigit) = some unit) :
    Writes token ((trim token).takeWhile isDigit) unit where
  nonempty := nonempty
  areDigits char member := List.mem_takeWhile_imp member
  split := by
    have suffix : decide (unit.suffix = (trim token).dropWhile isDigit) = true :=
      @List.find?_some WindowUnit (fun unit => decide (unit.suffix = (trim token).dropWhile isDigit))
        unit WindowUnit.all known
    rw [of_decide_eq_true suffix, List.takeWhile_append_dropWhile]

theorem read_written (writes : Writes token digits unit) :
    read token = (readDigits digits).map fun amount =>
      if positive : 1 ≤ amount then some ⟨amount, unit, positive⟩ else none := by
  obtain ⟨front, known⟩ := writes.scan
  rw [read]
  simp only [front, known]
  have nonempty := writes.nonempty
  cases digits with
  | nil => exact absurd rfl nonempty
  | cons char rest => rfl

theorem read_unwritten (nothing : ∀ digits unit, ¬Writes token digits unit) :
    read token = .ok none := by
  rw [read]
  by_cases empty : (trim token).takeWhile isDigit = []
  · simp only [empty]
  · cases known : WindowUnit.ofSuffix? ((trim token).dropWhile isDigit) with
    | none =>
        generalize (trim token).takeWhile isDigit = front at empty
        cases front with
        | nil => exact absurd rfl empty
        | cons char rest => rfl
    | some unit => exact absurd (writes_of_scan empty known) (nothing _ _)

/-- The token writes the window's amount and unit, in digits that are not too many. -/
def Spells (token : List Char) (window : Window) : Prop :=
  ∃ digits, Writes token digits window.unit ∧ digits.length ≤ digitLimit ∧
    digitsValue digits = window.amount

def Short (token : List Char) : Prop :=
  ∀ digits unit, Writes token digits unit → digits.length ≤ digitLimit

theorem Writes.short_iff (writes : Writes token digits unit) :
    Short token ↔ digits.length ≤ digitLimit := by
  refine ⟨fun short => short digits unit writes, fun few others other also => ?_⟩
  rwa [← (writes.unique also).1]

/-- A token is short and spells the window that is read, or it is short and nothing is read, or it is
refused. -/
theorem read_cases (token : List Char) :
    (Short token ∧ ∃ window, read token = .ok (some window) ∧ Spells token window) ∨
      (Short token ∧ read token = .ok none ∧ ∀ window, ¬Spells token window) ∨
      (¬Short token ∧ read token = .error .tooManyDigits) := by
  by_cases written : ∃ digits unit, Writes token digits unit
  · obtain ⟨digits, unit, writes⟩ := written
    rw [read_written writes, read_digits writes.nonempty writes.areDigits, writes.short_iff]
    by_cases short : digits.length ≤ digitLimit
    · rw [if_pos short]
      by_cases positive : 1 ≤ digitsValue digits
      · refine .inl ⟨short, ⟨digitsValue digits, unit, positive⟩, ?_, digits, writes, short, rfl⟩
        simp only [Except.map, dif_pos positive]
      · refine .inr (.inl ⟨short, ?_, ?_⟩)
        · simp only [Except.map, dif_neg positive]
        · rintro window ⟨others, also, _, amount⟩
          have windowPositive := window.positive
          rw [← (writes.unique also).1] at amount
          omega
    · rw [if_neg short]
      exact .inr (.inr ⟨short, rfl⟩)
  · simp only [not_exists] at written
    refine .inr (.inl ⟨?_, read_unwritten written, ?_⟩)
    · exact fun digits unit writes => absurd writes (written digits unit)
    · exact fun window spells => absurd spells.choose_spec.1 (written _ window.unit)

/-- The window that a token writes, and else the default: also where the token writes zero. -/
inductive StandsFor (token : List Char) (window : Window) : Prop where
  | written (digits : List Char) (writes : Writes token digits window.unit)
      (amount : digitsValue digits = window.amount)
  | default (zero : ∀ digits unit, Writes token digits unit → digitsValue digits = 0)
      (isDefault : window = default)

/-- A token of not too many digits stands for the window that is read. -/
theorem read_or_default_spec (token : String) :
    (Short token.toList ∧
      ∃ window, readOrDefault (some token) = .ok window ∧ StandsFor token.toList window) ∨
    (¬Short token.toList ∧ readOrDefault (some token) = .error .tooManyDigits) := by
  change (_ ∧ ∃ window, (read token.toList).map (·.getD default) = .ok window ∧ _) ∨
    (_ ∧ (read token.toList).map (·.getD default) = .error .tooManyDigits)
  rcases read_cases token.toList with ⟨short, window, found, digits, writes, _, amount⟩ |
    ⟨short, nothing, unspelled⟩ | ⟨long, refused⟩
  · rw [found]
    exact .inl ⟨short, window, rfl, .written digits writes amount⟩
  · rw [nothing]
    refine .inl ⟨short, default, rfl, .default (fun digits unit writes => ?_) rfl⟩
    by_contra nonzero
    exact unspelled ⟨digitsValue digits, unit, Nat.pos_of_ne_zero nonzero⟩
      ⟨digits, writes, short digits unit writes, rfl⟩
  · rw [refused]
    exact .inr ⟨long, rfl⟩

/-! ### Cutoffs -/

def micros (window : Window) : ℕ := window.seconds * 1000000

theorem cutoff_eq (window : Window) (now : DateTime) :
    window.cutoff now = (Span.ofMicros (window.micros : ℤ)).bind now.minus := by
  rw [cutoff, span, micros]

/-- The window reaches back no further than the first day of the calendar. -/
theorem cutoff_of_fits {window : Window} {now : DateTime} (fits : window.micros ≤ now.wall.micros) :
    ∃ cutoff, window.cutoff now = .ok cutoff ∧
      (cutoff.wall.micros : ℤ) = now.wall.micros - window.micros ∧ cutoff.offset = now.offset := by
  rw [cutoff_eq]
  exact DateTime.minus_micros_of_fits fits

theorem cutoff_of_exceeds {window : Window} {now : DateTime}
    (exceeds : now.wall.micros < window.micros) : window.cutoff now = .error .outOfRange := by
  rw [cutoff_eq]
  generalize window.micros = micros at exceeds ⊢
  rcases DateTime.span_of_micros_cases micros with ⟨span, spanIs, same⟩ | outside
  · rw [spanIs]
    exact DateTime.minus_of_exceeds (by omega)
  · rw [outside]
    rfl

/-- A token of too many digits, or of a window that is longer than the time since the year 1. -/
def Oversized (token : List Char) (now : DateTime) : Prop :=
  ∃ digits unit, Writes token digits unit ∧ (digitLimit < digits.length ∨
    now.wall.micros < unit.seconds * digitsValue digits * 1000000)

theorem oversized_of_not_short {now : DateTime} (long : ¬Short token) : Oversized token now := by
  simp only [Short, not_forall, not_le] at long
  obtain ⟨digits, unit, writes, tooMany⟩ := long
  exact ⟨digits, unit, writes, .inl tooMany⟩

theorem default_fits {now : DateTime} (recent : 1000 ≤ now.wall.date.year) :
    default.micros ≤ now.wall.micros := by
  by_contra early
  have sameDay : now.wall.micros / microsPerDay = 0 :=
    Nat.div_eq_of_lt ((Nat.lt_of_not_le early).trans (by decide))
  have first : now.wall.date.year = 1 := by
    rw [WallTime.date, sameDay]
    decide
  omega

theorem oversized_iff {now : DateTime} {window : Window} (short : Short token)
    (stands : StandsFor token window) (recent : 1000 ≤ now.wall.date.year) :
    Oversized token now ↔ now.wall.micros < window.micros := by
  constructor
  · rintro ⟨digits, unit, writes, tooMany | exceeds⟩
    · exact absurd (short digits unit writes) (Nat.not_le_of_lt tooMany)
    · cases stands with
      | written others also amount =>
          obtain ⟨rfl, rfl⟩ := writes.unique also
          rw [amount] at exceeds
          rwa [micros, seconds]
      | default zero _ =>
          rw [zero digits unit writes, Nat.mul_zero, Nat.zero_mul] at exceeds
          exact absurd exceeds (Nat.not_lt_zero _)
  · intro exceeds
    cases stands with
    | written digits writes amount =>
        refine ⟨digits, window.unit, writes, .inr ?_⟩
        rwa [amount, ← seconds, ← micros]
    | default _ isDefault =>
        rw [isDefault] at exceeds
        exact absurd (default_fits recent) (Nat.not_le_of_lt exceeds)

end Window

namespace History

open Window

variable {token : String} {now : DateTime}

theorem token_cutoff_of_read {window : Window}
    (read : Window.readOrDefault (some token) = .ok window) :
    windowCutoff (.token (some token)) now = (window.cutoff now).mapError .time := by
  unfold windowCutoff
  simp only [read]
  rw [map_error_ok, Except.bind]

theorem token_cutoff_too_long
    (read : Window.readOrDefault (some token) = .error .tooManyDigits) :
    windowCutoff (.token (some token)) now = .error .tokenTooLong := by
  unfold windowCutoff
  simp only [read]
  rw [map_error_error, Except.bind]

/-- Exactly the oversized tokens have no cutoff. -/
theorem token_cutoff (recent : 1000 ≤ now.wall.date.year) :
    (Oversized token.toList now → ∃ error, (error = .tokenTooLong ∨ error = .time .outOfRange) ∧
        windowCutoff (.token (some token)) now = .error error) ∧
      (¬Oversized token.toList now → ∃ window cutoff, StandsFor token.toList window ∧
        windowCutoff (.token (some token)) now = .ok cutoff ∧
        (cutoff.wall.micros : ℤ) = now.wall.micros - window.micros ∧
        cutoff.offset = now.offset) := by
  rcases read_or_default_spec token with ⟨short, window, read, stands⟩ | ⟨long, tooMany⟩
  · rw [oversized_iff short stands recent, token_cutoff_of_read read]
    constructor
    · intro exceeds
      rw [cutoff_of_exceeds exceeds]
      exact ⟨.time .outOfRange, .inr rfl, rfl⟩
    · intro fits
      obtain ⟨cutoff, moved, micros, offset⟩ := cutoff_of_fits (Nat.le_of_not_lt fits)
      rw [moved]
      exact ⟨window, cutoff, stands, rfl, micros, offset⟩
  · constructor
    · exact fun _ => ⟨.tokenTooLong, .inl rfl, token_cutoff_too_long tooMany⟩
    · exact fun fits => absurd (oversized_of_not_short long) fits

end History
end PriceBoard
