import PriceBoard.Decimal.Numeral
import PriceBoard.Proofs.Text.Plain
import PriceBoard.Proofs.Decimal.Nearest

/-!
# Written integers read back

The digits of a number are ASCII digits with the number's value, so an integer's text names no other
integer, and reading it gives the integer as long as it has no more digits than the limit.
-/
namespace PriceBoard.Decimal

open PriceBoard.Text

/-! ### Digits -/

theorem ascii_digit_iff {char : Char} :
    isAsciiDigit char = true ↔ 0x30 ≤ char.toNat ∧ char.toNat ≤ 0x39 := by
  simp only [isAsciiDigit, Bool.and_eq_true, decide_eq_true_iff, Char.le_def, UInt32.le_iff_toNat_le]
  exact Iff.rfl

theorem digit_char_code {value : ℕ} (small : value < 10) :
    (digitChar value).toNat = 0x30 + value := by
  have codes : ∀ value < 10, (digitChar value).toNat = 0x30 + value := by decide
  exact codes value small

theorem digit_char_ascii {value : ℕ} (small : value < 10) :
    isAsciiDigit (digitChar value) = true := by
  have code := digit_char_code small
  rw [ascii_digit_iff]
  omega

theorem digit_char_value {value : ℕ} (small : value < 10) :
    asciiValue (digitChar value) = value := by
  rw [asciiValue, digit_char_code small]
  omega

theorem digit_of_ascii {char : Char} (ascii : isAsciiDigit char = true) :
    digit? char = some (asciiValue char) := by
  obtain ⟨low, high⟩ := ascii_digit_iff.mp ascii
  exact digit_of_code low high

theorem digit_of_ascii_digit {char : Char} (ascii : isAsciiDigit char = true) :
    isDigit char = true := by
  rw [isDigit, digit_of_ascii ascii]
  rfl

theorem ascii_value_lt {char : Char} (ascii : isAsciiDigit char = true) : asciiValue char < 10 := by
  obtain ⟨low, high⟩ := ascii_digit_iff.mp ascii
  rw [asciiValue]
  omega

theorem digit_char_of_ascii {char : Char} (ascii : isAsciiDigit char = true) :
    digitChar (asciiValue char) = char := by
  obtain ⟨low, high⟩ := ascii_digit_iff.mp ascii
  rw [digitChar, asciiValue, Nat.add_sub_cancel' low, Char.ofNat_toNat]

theorem ascii_digit_not_space {char : Char} (ascii : isAsciiDigit char = true) :
    isSpace char = false := by
  obtain ⟨low, high⟩ := ascii_digit_iff.mp ascii
  exact not_space_of_printable (by omega) (by omega)

theorem ne_of_ascii_digit {char other : Char} (ascii : isAsciiDigit char = true)
    (different : isAsciiDigit other = false) : char ≠ other := by
  rintro rfl
  rw [ascii] at different
  exact Bool.noConfusion different

/-! ### The digits of a number -/

theorem nat_digits_ascii (value : ℕ) : ∀ char ∈ natDigits value, isAsciiDigit char = true := by
  induction value using natDigits.induct with
  | case1 value small =>
      intro char member
      rw [natDigits, if_pos small, List.mem_singleton] at member
      rw [member]
      exact digit_char_ascii small
  | case2 value large induction =>
      intro char member
      rw [natDigits, if_neg large, List.mem_append, List.mem_singleton] at member
      rcases member with inside | last
      · exact induction char inside
      · rw [last]
        exact digit_char_ascii (Nat.mod_lt value (by decide))

theorem nat_digits_length (value : ℕ) : (natDigits value).length = decimalLength value := by
  induction value using natDigits.induct with
  | case1 value small => rw [natDigits, if_pos small, decimalLength, if_pos small, List.length_singleton]
  | case2 value large induction =>
      rw [natDigits, if_neg large, decimalLength, if_neg large, List.length_append, induction,
        List.length_singleton]

theorem nat_digits_ne_nil (value : ℕ) : natDigits value ≠ [] := by
  intro empty
  have length := nat_digits_length value
  rw [empty, List.length_nil, decimalLength] at length
  split_ifs at length

theorem of_digits_snoc (values : List ℕ) (value : ℕ) :
    ofDigits (values ++ [value]) = 10 * ofDigits values + value := by
  rw [ofDigits, List.foldl_append]
  rfl

theorem of_digits_nat_digits (value : ℕ) :
    ofDigits ((natDigits value).map asciiValue) = value := by
  induction value using natDigits.induct with
  | case1 value small =>
      rw [natDigits, if_pos small, List.map_singleton, digit_char_value small, ofDigits,
        List.foldl_cons, List.foldl_nil]
      omega
  | case2 value large induction =>
      rw [natDigits, if_neg large, List.map_append, List.map_singleton, of_digits_snoc, induction,
        digit_char_value (Nat.mod_lt value (by decide))]
      exact Nat.div_add_mod value 10

theorem nat_digits_injective {left right : ℕ} (same : natDigits left = natDigits right) :
    left = right := by
  rw [← of_digits_nat_digits left, same, of_digits_nat_digits]

/-- Digits without leading zeros are the digits of their value. -/
theorem nat_digits_of_digits {digits : List Char} (nonempty : digits ≠ [])
    (ascii : ∀ char ∈ digits, isAsciiDigit char = true) (leading : digits.head? ≠ some '0') :
    natDigits (ofDigits (digits.map asciiValue)) = digits := by
  induction digits using List.reverseRecOn with
  | nil => exact absurd rfl nonempty
  | append_singleton digits digit induction =>
      have isLast := ascii digit (List.mem_append_right _ List.mem_cons_self)
      have small := ascii_value_lt isLast
      rw [List.map_append, List.map_singleton, of_digits_snoc]
      by_cases single : digits = []
      · rw [single, List.map_nil, ofDigits, List.foldl_nil, Nat.mul_zero, Nat.zero_add, natDigits,
          if_pos small, digit_char_of_ascii isLast, List.nil_append]
      · have front := induction single (fun char member => ascii char (List.mem_append_left _ member))
          (by rwa [List.head?_append_of_ne_nil _ single] at leading)
        have positive : ofDigits (digits.map asciiValue) ≠ 0 := by
          intro zero
          rw [zero, natDigits, if_pos (by decide)] at front
          apply leading
          rw [← front]
          rfl
        have others : (10 * ofDigits (digits.map asciiValue) + asciiValue digit) / 10 =
            ofDigits (digits.map asciiValue) := by
          omega
        have last : (10 * ofDigits (digits.map asciiValue) + asciiValue digit) % 10 =
            asciiValue digit := by
          omega
        rw [natDigits, if_neg (by omega), others, last, front, digit_char_of_ascii isLast]

theorem padded_digits_length (width value : ℕ) : (paddedDigits width value).length = width := by
  induction width generalizing value with
  | zero => rfl
  | succ width induction => rw [paddedDigits, List.length_append, induction, List.length_singleton]

theorem padded_digits_ascii (width value : ℕ) :
    ∀ char ∈ paddedDigits width value, isAsciiDigit char = true := by
  induction width generalizing value with
  | zero => exact fun _ member => absurd member List.not_mem_nil
  | succ width induction =>
      intro char member
      rcases List.mem_append.mp member with inFront | last
      · exact induction (value / 10) char inFront
      · rw [List.mem_singleton.mp last]
        exact digit_char_ascii (Nat.mod_lt value (by decide))

theorem of_digits_padded_digits (width value : ℕ) :
    ofDigits ((paddedDigits width value).map asciiValue) = value % 10 ^ width := by
  induction width generalizing value with
  | zero =>
      rw [pow_zero, Nat.mod_one]
      rfl
  | succ width induction =>
      rw [paddedDigits, List.map_append, List.map_singleton, of_digits_snoc, induction,
        digit_char_value (Nat.mod_lt value (by decide)), Nat.pow_succ', Nat.mod_mul]
      exact Nat.add_comm _ _

theorem padded_digits_injective {width left right : ℕ}
    (same : paddedDigits width left = paddedDigits width right) :
    left % 10 ^ width = right % 10 ^ width := by
  rw [← of_digits_padded_digits, same, of_digits_padded_digits]

/-! ### Integers -/

theorem int_digits_injective {left right : ℤ} (same : intDigits left = intDigits right) :
    left = right := by
  have noSign {value other : ℕ} (signed : natDigits value = '-' :: natDigits other) : False := by
    have ascii := nat_digits_ascii value '-' (by rw [signed]; exact List.mem_cons_self)
    simp [isAsciiDigit] at ascii
  cases left with
  | ofNat left =>
      cases right with
      | ofNat right => rw [nat_digits_injective same]
      | negSucc right => exact (noSign same).elim
  | negSucc left =>
      cases right with
      | ofNat right => exact (noSign same.symm).elim
      | negSucc right =>
          have digits := nat_digits_injective (List.tail_eq_of_cons_eq same)
          rw [Nat.succ.inj digits]

theorem int_text_injective {left right : ℤ} (same : intText left = intText right) :
    left = right := int_digits_injective (String.ofList_injective same)

/-! ### Reading -/

theorem drop_underscores_of_plain (isInner : Char → Bool) {text : List Char}
    (plain : ∀ char ∈ text, char ≠ '_') : dropUnderscores? isInner text = some text := by
  induction text using dropUnderscores?.induct isInner with
  | case1 => rfl
  | case2 rest => exact absurd rfl (plain '_' List.mem_cons_self)
  | case3 char next rest notMark inner induction =>
      exact absurd rfl (plain '_' (List.mem_cons_of_mem _ List.mem_cons_self))
  | case4 char next rest notMark outer =>
      exact absurd rfl (plain '_' (List.mem_cons_of_mem _ List.mem_cons_self))
  | case5 char rest notMark noPair induction =>
      have rest := induction fun other member => plain other (List.mem_cons_of_mem _ member)
      rw [dropUnderscores?]
      · rw [rest, Option.map_some]
      all_goals assumption

theorem map_digit_of_ascii {text : List Char} (ascii : ∀ char ∈ text, isAsciiDigit char = true) :
    text.mapM digit? = some (text.map asciiValue) := by
  induction text with
  | nil => rfl
  | cons char rest induction =>
      have first := digit_of_ascii (ascii char List.mem_cons_self)
      have others := induction fun other member => ascii other (List.mem_cons_of_mem _ member)
      rw [List.mapM_cons, first, others]
      rfl

theorem read_digits_of_ascii {text : List Char} (nonempty : text ≠ [])
    (ascii : ∀ char ∈ text, isAsciiDigit char = true) (short : text.length ≤ digitLimit) :
    readDigits text = .ok (ofDigits (text.map asciiValue)) := by
  have read := map_digit_of_ascii ascii
  have length : (text.map asciiValue).length ≤ digitLimit := by rwa [List.length_map]
  cases text with
  | nil => exact absurd rfl nonempty
  | cons char rest =>
      rw [readDigits, read]
      exact if_pos length

theorem split_sign_of_digit {text : List Char}
    (first : ∀ char ∈ text.head?, isAsciiDigit char = true) : splitSign text = (false, text) := by
  cases text with
  | nil => rfl
  | cons char rest =>
      have ascii := first char rfl
      rw [splitSign]
      · rintro others same
        rw [(List.cons.inj same).1] at ascii
        simp [isAsciiDigit] at ascii
      · rintro others same
        rw [(List.cons.inj same).1] at ascii
        simp [isAsciiDigit] at ascii

theorem read_integer_int_digits {value : ℤ} (short : decimalLength value.natAbs ≤ digitLimit) :
    readInteger (intDigits value) = .ok value := by
  have ascii := nat_digits_ascii value.natAbs
  have unmarked := drop_underscores_of_plain isDigit
    fun char member => ne_of_ascii_digit (ascii char member) (by decide : isAsciiDigit '_' = false)
  have read := read_digits_of_ascii (nat_digits_ne_nil _) ascii (by rwa [nat_digits_length])
  rw [of_digits_nat_digits] at read
  cases value with
  | ofNat value =>
      simp only [Int.ofNat_eq_natCast, Int.natAbs_natCast] at ascii unmarked read
      have trimmed : trimWith isSpace (natDigits value) = natDigits value :=
        trim_with_of_none fun char member => ascii_digit_not_space (ascii char member)
      have sign := @split_sign_of_digit (natDigits value)
        fun char member => ascii char (List.mem_of_mem_head? member)
      rw [readInteger, intDigits, trimmed, sign]
      simp only [unmarked, read]
      rfl
  | negSucc value =>
      simp only [Int.natAbs_negSucc] at ascii unmarked read
      have trimmed : trimWith isSpace ('-' :: natDigits (value + 1)) = '-' :: natDigits (value + 1) := by
        apply trim_with_of_none
        intro char member
        rcases List.mem_cons.mp member with rfl | digit
        · decide
        · exact ascii_digit_not_space (ascii char digit)
      rw [readInteger, intDigits, trimmed, splitSign]
      simp only [unmarked, read]
      rfl

end PriceBoard.Decimal
