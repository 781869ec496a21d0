import PriceBoard.Proofs.Decimal.RoundTrip
import PriceBoard.Proofs.Query.Grammar
import PriceBoard.Proofs.Query.Rules

/-!
# The words of a wording

They are short of blanks and capitals, and a number among them begins with a digit, which no rule waits
for.
-/
namespace PriceBoard.Query

open PriceBoard.Decimal PriceBoard.Text

/-! ### Characters -/

theorem quiet_of_digit {char : Char} (ascii : isAsciiDigit char = true) : IsQuiet char := by
  obtain ⟨low, high⟩ := ascii_digit_iff.mp ascii
  unfold IsQuiet
  omega

theorem quiet_of_name {char : Char} (plain : isNameChar char = true) : IsQuiet char := by
  rw [isNameChar, Bool.or_eq_true, Bool.or_eq_true] at plain
  rcases plain with (lower | digit) | underscore
  · delta Char.isLower at lower
    rw [Bool.and_eq_true, decide_eq_true_iff, decide_eq_true_iff] at lower
    obtain ⟨low, high⟩ := lower
    have atLeast : 0x61 ≤ char.toNat := UInt32.le_iff_toNat_le.mp low
    have atMost : char.toNat ≤ 0x7a := UInt32.le_iff_toNat_le.mp high
    unfold IsQuiet
    omega
  · exact quiet_of_digit digit
  · rw [of_decide_eq_true underscore]
    decide

theorem word_of_name {char : Char} (plain : isNameChar char = true) : isWord char = true := by
  have ascii := (quiet_of_name plain).2.1
  rw [isNameChar, Bool.or_eq_true, Bool.or_eq_true] at plain
  rw [isWord, if_pos ascii, Bool.or_eq_true]
  rcases plain with (lower | digit) | underscore
  · left
    change ((char.isUpper || char.isLower) || char.isDigit) = true
    rw [lower, Bool.or_true, Bool.true_or]
  · left
    rw [Char.isAlphanum, Bool.or_eq_true]
    right
    obtain ⟨low, high⟩ := ascii_digit_iff.mp digit
    simp only [Char.isDigit, Bool.and_eq_true, decide_eq_true_iff]
    exact ⟨UInt32.le_iff_toNat_le.mpr low, UInt32.le_iff_toNat_le.mpr high⟩
  · right
    rw [of_decide_eq_true underscore]
    rfl

/-- No quiet character begins a connective. -/
theorem no_connective {char : Char} (plain : char = ' ' ∨ IsQuiet char) : char ≠ 'A' ∧ char ≠ 'O' := by
  constructor
  · rintro rfl
    revert plain
    decide
  · rintro rfl
    revert plain
    decide

/-! ### Numbers -/

def StartsWithDigit (word : List Char) : Prop :=
  ∃ digit rest, word = digit :: rest ∧ isAsciiDigit digit = true

theorem digits_start (digits : Digits) : StartsWithDigit digits.chars := by
  obtain ⟨digit, rest, chars⟩ := List.exists_cons_of_ne_nil digits.nonempty
  exact ⟨digit, rest, chars, digits.ascii digit (by rw [chars]; exact List.mem_cons_self)⟩

theorem numeral_start (numeral : Numeral) : StartsWithDigit numeral.text := by
  obtain ⟨digit, rest, chars, ascii⟩ := digits_start numeral.whole
  unfold Numeral.text
  cases numeral.fraction with
  | none => exact ⟨digit, rest, chars, ascii⟩
  | some fraction => exact ⟨digit, rest ++ '.' :: fraction.chars, by rw [chars]; rfl, ascii⟩

theorem numeral_chars (numeral : Numeral) :
    ∀ char ∈ numeral.text, isAsciiDigit char = true ∨ char = '.' := by
  intro char member
  unfold Numeral.text at member
  cases fraction : numeral.fraction with
  | none =>
      rw [fraction] at member
      exact .inl (numeral.whole.ascii char member)
  | some fractionDigits =>
      rw [fraction] at member
      rcases List.mem_append.mp member with whole | later
      · exact .inl (numeral.whole.ascii char whole)
      · rcases List.mem_cons.mp later with point | digit
        · exact .inr point
        · exact .inl (fractionDigits.ascii char digit)

theorem ne_nil_of_digit {word : List Char} (start : StartsWithDigit word) : word ≠ [] := by
  obtain ⟨digit, rest, chars, _⟩ := start
  rw [chars]
  exact List.cons_ne_nil digit rest

def Numeral.figure (numeral : Numeral) : Figure :=
  ⟨numeral.text, ne_nil_of_digit (numeral_start numeral), numeral_chars numeral⟩

theorem figure_part (figure : Figure) : ∀ char ∈ figure.chars, isNumeralPart char = true := by
  intro char member
  rw [isNumeralPart, Bool.or_eq_true]
  rcases figure.plain char member with digit | point
  · exact .inl (digit_of_ascii_digit digit)
  · exact .inr (decide_eq_true point)

/-! ### Quiet words -/

def FieldName.name (field : FieldName) : Name :=
  ⟨field.chars, field.nonempty, fun char member => word_of_name (field.plain char member)⟩

theorem field_quiet (field : FieldName) : IsQuietWord field.chars := by
  constructor
  · exact field.nonempty
  · intro char member
    exact quiet_of_name (field.plain char member)

theorem figure_quiet (figure : Figure) : IsQuietWord figure.chars := by
  constructor
  · exact figure.nonempty
  · intro char member
    rcases figure.plain char member with digit | point
    · exact quiet_of_digit digit
    · rw [point]
      decide

theorem numeral_quiet (numeral : Numeral) : IsQuietWord numeral.text := figure_quiet numeral.figure

theorem digits_quiet (digits : Digits) : IsQuietWord digits.chars := by
  constructor
  · exact digits.nonempty
  · intro char member
    exact quiet_of_digit (digits.ascii char member)

theorem plain_of_quiet {word : List Char} (quiet : IsQuietWord word) : IsPlainWord word := by
  constructor
  · exact quiet.1
  · intro char member
    obtain ⟨low, high, _⟩ := quiet.2 char member
    exact not_blank_of_printable low high

section

variable {words : List (List Char)} (quiet : ∀ word ∈ words, IsQuietWord word)
include quiet

theorem plain_of_all_quiet : ∀ word ∈ words, IsPlainWord word :=
  fun word member => plain_of_quiet (quiet word member)

theorem quiet_chars : ∀ char ∈ spaced words, char = ' ' ∨ IsQuiet char := by
  intro char member
  rcases mem_spaced member with space | ⟨word, inside, charMember⟩
  · exact .inl space
  · exact .inr ((quiet word inside).2 char charMember)

/-- Quiet words are their own lower case, whatever stands in front of them. -/
theorem lowercase_after_quiet (before : List Char) :
    lowercaseAfter before (spaced words) = spaced words := by
  apply lowercase_after_of_not_upper
  · intro char member
    rcases quiet_chars quiet char member with space | quietChar
    · rw [space]
      decide
    · exact quietChar.2.1
  · intro char member
    rcases quiet_chars quiet char member with space | quietChar
    · rw [space]
      decide
    · exact quietChar.2.2

/-- Quiet words are read as they are. -/
theorem lowercase_trim_quiet : lowercase (trim (spaced words)) = spaced words := by
  rw [trim_spaced (plain_of_all_quiet quiet)]
  exact lowercase_after_quiet quiet []

end

/-! ### Scanning numbers -/

/-- The text of a number is taken whole. -/
theorem figure_found (figure : Figure) {rest : List Char}
    (stop : ∀ char ∈ rest.head?, isNumeralPart char = false) :
    numeral? (figure.chars ++ rest) = some (figure.chars, rest) :=
  run_append figure.nonempty (figure_part figure) stop

theorem value_found (figure : Figure) {rest : List Char}
    (stop : ∀ char ∈ rest.head?, isNumeralPart char = false) :
    Phrase.value? (' ' :: (figure.chars ++ rest)) = some (figure.chars, rest) := by
  rw [Phrase.value?, blanks_space (head_of_plain (plain_of_quiet (figure_quiet figure)) rest)]
  exact figure_found figure stop

theorem value_before_space (figure : Figure) (rest : List Char) :
    Phrase.value? (' ' :: (figure.chars ++ ' ' :: rest)) = some (figure.chars, ' ' :: rest) := by
  apply value_found
  intro char member
  rw [← Option.some.inj member]
  decide

/-- The last number of a clause. -/
theorem value_last (figure : Figure) :
    Phrase.value? (' ' :: figure.chars) = some (figure.chars, []) := by
  have found := @value_found figure [] fun _ member => nomatch member
  rwa [List.append_nil] at found

theorem amount_found (digits : Digits) (rest : List Char) :
    digits? (digits.chars ++ ' ' :: rest) = some (digits.chars, ' ' :: rest) := by
  apply run_append digits.nonempty
  · intro char member
    exact digit_of_ascii_digit (digits.ascii char member)
  · intro char member
    rw [← Option.some.inj member]
    decide

/-! ### Wordings -/

theorem unit_quiet (unit : UnitWord) : IsQuietWord unit.text := by
  cases unit <;> decide

theorem saying_quiet (saying : Saying) : ∀ word ∈ saying.words, IsQuietWord word := by
  cases saying with
  | sided field side value =>
      have sideQuiet : IsQuietWord side.word := by cases side <;> decide
      simp only [Saying.words, List.forall_mem_cons, field_quiet, sideQuiet, figure_quiet,
        List.not_mem_nil, false_implies, implies_true, and_self]
  | between field low high =>
      have between : IsQuietWord "between".toList := by decide
      have conjunction : IsQuietWord "and".toList := by decide
      simp only [Saying.words, List.forall_mem_cons, field_quiet, between, conjunction,
        figure_quiet, List.not_mem_nil, false_implies, implies_true, and_self]
  | rose rise value =>
      have verb : IsQuietWord rise.verb := by cases rise <;> decide
      have above : IsQuietWord "above".toList := by decide
      simp only [Saying.words, List.forall_mem_cons, verb, above, figure_quiet,
        List.not_mem_nil, false_implies, implies_true, and_self]
  | fell fall value =>
      have words : ∀ word ∈ fall.words, IsQuietWord word := by
        cases fall <;> simp only [Fall.words, List.forall_mem_cons] <;> decide
      intro word member
      rcases List.mem_append.mp member with inside | last
      · exact words word inside
      · rw [List.mem_singleton.mp last]
        exact figure_quiet value
  | dropped value =>
      have dropped : IsQuietWord "dropped".toList := by decide
      have below : IsQuietWord "below".toList := by decide
      simp only [Saying.words, List.forall_mem_cons, dropped, below, figure_quiet,
        List.not_mem_nil, false_implies, implies_true, and_self]
  | droppedAgo value amount unit =>
      have dropped : IsQuietWord "dropped".toList := by decide
      have below : IsQuietWord "below".toList := by decide
      have before : IsQuietWord "ago".toList := by decide
      simp only [Saying.words, List.forall_mem_cons, dropped, below, before, figure_quiet,
        digits_quiet, unit_quiet, List.not_mem_nil, false_implies, implies_true, and_self]
  | withinLast amount unit =>
      have timestamp : IsQuietWord "timestamp".toList := by decide
      have within : IsQuietWord "within".toList := by decide
      have last : IsQuietWord "last".toList := by decide
      simp only [Saying.words, List.forall_mem_cons, timestamp, within, last, digits_quiet,
        unit_quiet, List.not_mem_nil, false_implies, implies_true, and_self]

end PriceBoard.Query
