import PriceBoard.Proofs.Window
import PriceBoard.Proofs.Decimal.Digits
import Mathlib.Tactic.FinCases

/-!
# The grammar of window tokens

A token is read exactly where it writes a positive number, in digits that are not too many, and the suffix
of a unit; it is refused exactly where the digits are too many. Of its spellings in ASCII digits a window
has one that begins with no zero, and it is read back from that.
-/
namespace PriceBoard.Window

open PriceBoard.Decimal PriceBoard.Text

variable {token digits : List Char} {unit : WindowUnit} {window : Window}

/-! ### What is read -/

/-- The token writes too many digits, whatever their value, and the suffix of a unit. -/
def TooLong (token : List Char) : Prop :=
  ∃ digits unit, Writes token digits unit ∧ digitLimit < digits.length

theorem too_long_iff : TooLong token ↔ ¬Short token := by
  simp only [TooLong, Short, not_forall, not_le, exists_prop]

theorem Spells.short (spells : Spells token window) : Short token := by
  obtain ⟨digits, writes, few, _⟩ := spells
  exact writes.short_iff.mpr few

theorem Spells.unique {other : Window} (spells : Spells token window) (also : Spells token other) :
    window = other := by
  obtain ⟨digits, writes, _, amount⟩ := spells
  obtain ⟨others, alsoWrites, _, otherAmount⟩ := also
  obtain ⟨rfl, sameUnit⟩ := writes.unique alsoWrites
  have sameAmount := amount.symm.trans otherAmount
  cases window
  cases other
  cases sameUnit
  cases sameAmount
  rfl

theorem read_window_iff : read token = .ok (some window) ↔ Spells token window := by
  rcases read_cases token with ⟨_, other, found, spells⟩ | ⟨_, nothing, unspelled⟩ | ⟨long, refused⟩
  · rw [found, Except.ok.injEq, Option.some.injEq]
    constructor
    · rintro rfl
      exact spells
    · exact spells.unique
  · rw [nothing]
    exact ⟨fun same => (nomatch same), fun spells => absurd spells (unspelled window)⟩
  · rw [refused]
    exact ⟨fun same => (nomatch same), fun spells => absurd spells.short long⟩

theorem read_error_iff {error : IntegerError} :
    read token = .error error ↔ error = .tooManyDigits ∧ TooLong token := by
  rw [too_long_iff]
  rcases read_cases token with ⟨short, other, found, _⟩ | ⟨short, nothing, _⟩ | ⟨long, refused⟩
  · rw [found]
    exact ⟨fun same => (nomatch same), fun long => absurd short long.2⟩
  · rw [nothing]
    exact ⟨fun same => (nomatch same), fun long => absurd short long.2⟩
  · rw [refused, Except.error.injEq]
    exact ⟨fun same => ⟨same.symm, long⟩, fun same => same.1.symm⟩

theorem read_nothing_iff :
    read token = .ok none ↔ ¬TooLong token ∧ ∀ window, ¬Spells token window := by
  rw [too_long_iff, not_not]
  rcases read_cases token with ⟨_, window, found, spells⟩ | ⟨short, nothing, unspelled⟩ |
    ⟨long, refused⟩
  · rw [found]
    exact ⟨fun same => (nomatch same), fun others => absurd spells (others.2 window)⟩
  · rw [nothing]
    exact ⟨fun _ => ⟨short, unspelled⟩, fun _ => rfl⟩
  · rw [refused]
    exact ⟨fun same => (nomatch same), fun others => absurd others.1 long⟩

/-! ### Spellings in ASCII digits -/

theorem suffix_not_blank (unit : WindowUnit) : ∀ char ∈ unit.suffix, isBlank char = false := by
  intro char member
  cases unit <;> fin_cases member <;> decide

theorem writes_ascii (nonempty : digits ≠ []) (ascii : ∀ char ∈ digits, isAsciiDigit char = true)
    (unit : WindowUnit) : Writes (digits ++ unit.suffix) digits unit where
  nonempty := nonempty
  areDigits char member := digit_of_ascii_digit (ascii char member)
  split := by
    apply trim_with_of_none
    intro char member
    rcases List.mem_append.mp member with digit | suffix
    · obtain ⟨low, high⟩ := ascii_digit_iff.mp (ascii char digit)
      exact not_blank_of_printable (by omega) (by omega)
    · exact suffix_not_blank unit char suffix

theorem digits_value_ascii (ascii : ∀ char ∈ digits, isAsciiDigit char = true) :
    digitsValue digits = ofDigits (digits.map asciiValue) := by
  have values : digits.filterMap digit? = digits.map asciiValue := by
    rw [← List.filterMap_eq_map]
    exact List.filterMap_congr fun char member => digit_of_ascii (ascii char member)
  rw [digitsValue, values]

theorem spells_token (window : Window) (short : (natDigits window.amount).length ≤ digitLimit) :
    Spells window.token window := by
  have ascii := nat_digits_ascii window.amount
  refine ⟨natDigits window.amount, writes_ascii (nat_digits_ne_nil _) ascii window.unit, short, ?_⟩
  rw [digits_value_ascii ascii, of_digits_nat_digits]

structure Spelling where
  digits : List Char
  unit : WindowUnit
  nonempty : digits ≠ []
  ascii : ∀ char ∈ digits, isAsciiDigit char = true
  leading : digits.head? ≠ some '0'

namespace Spelling

def text (spelling : Spelling) : List Char := spelling.digits ++ spelling.unit.suffix

theorem of_spells {spelling : Spelling} (spells : Spells spelling.text window) :
    spelling.digits = natDigits window.amount ∧ spelling.unit = window.unit := by
  obtain ⟨digits, writes, _, amount⟩ := spells
  obtain ⟨same, unit⟩ :=
    (writes_ascii spelling.nonempty spelling.ascii spelling.unit).unique writes
  rw [← same, digits_value_ascii spelling.ascii] at amount
  rw [← amount, nat_digits_of_digits spelling.nonempty spelling.ascii spelling.leading]
  exact ⟨rfl, unit⟩

theorem unique {first second : Spelling} (spells : Spells first.text window)
    (also : Spells second.text window) : first = second := by
  obtain ⟨digits, unit⟩ := of_spells spells
  obtain ⟨otherDigits, otherUnit⟩ := of_spells also
  cases first
  cases second
  cases digits.trans otherDigits.symm
  cases unit.trans otherUnit.symm
  rfl

end Spelling

/-! ### The grammar -/

/-- A token is read as a window exactly where it spells the window, it is refused exactly where it is too
long, and else nothing is read from it. So the short form of a window is read back, and no window has two
spellings that begin with no zero. -/
theorem tokens_read_by_grammar :
    (∀ token : String,
      (∀ window, read? (some token) = .ok (some window) ↔ Spells token.toList window) ∧
      (∀ error, read? (some token) = .error error ↔
        error = .tooManyDigits ∧ TooLong token.toList) ∧
      (read? (some token) = .ok none ↔
        ¬TooLong token.toList ∧ ∀ window, ¬Spells token.toList window)) ∧
    (∀ window : Window, (natDigits window.amount).length ≤ digitLimit →
      read? (some (String.ofList window.token)) = .ok (some window)) ∧
    ∀ (window : Window) (first second : Spelling),
      read? (some (String.ofList first.text)) = .ok (some window) →
      read? (some (String.ofList second.text)) = .ok (some window) → first = second := by
  have read_text (text : List Char) : read? (some (String.ofList text)) = read text := by
    rw [read?, String.toList_ofList]
  refine ⟨fun token => ⟨fun window => read_window_iff, fun error => read_error_iff,
    read_nothing_iff⟩, ?_, ?_⟩
  · intro window short
    rw [read_text]
    exact read_window_iff.mpr (spells_token window short)
  · intro window first second spells also
    rw [read_text] at spells also
    exact Spelling.unique (read_window_iff.mp spells) (read_window_iff.mp also)

/-- Three months, with a digit of another script between blanks, and in their short form. -/
theorem tokens_read_by_grammar_of_months :
    let months : Window := ⟨3, .month, by decide⟩
    read? (some "\t٣mo\n") = .ok (some months) ∧
      (natDigits months.amount).length ≤ digitLimit ∧
      read? (some (String.ofList months.token)) = .ok (some months) := by
  intro months
  have digits : natDigits 3 = ['3'] := by
    rw [natDigits, if_pos (by decide)]
    rfl
  have short : (natDigits months.amount).length ≤ digitLimit := by
    rw [digits]
    decide
  have spells : Spells "\t٣mo\n".toList months :=
    ⟨['٣'], ⟨List.cons_ne_nil _ _, List.forall_mem_singleton.mpr (by decide), by decide⟩,
      by decide, by decide⟩
  exact ⟨((tokens_read_by_grammar.1 _).1 months).mpr spells, short,
    tokens_read_by_grammar.2.1 months short⟩

end PriceBoard.Window
