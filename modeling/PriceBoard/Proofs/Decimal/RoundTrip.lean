import PriceBoard.Proofs.Decimal.Layout
import PriceBoard.Proofs.Decimal.Shortest
import Mathlib.Tactic.FinCases

/-!
# Every double reads back from its text

The text of a double holds only digits, a point, signs and an exponent mark, so nothing is trimmed from
it or replaced in it. Its digits round to the double, whatever the layout.
-/
namespace PriceBoard.Decimal

open PriceBoard.Text Float.Model Float.Model.UnpackedFloat

/-! ### The characters of a layout -/

def IsNumeralChar (char : Char) : Prop :=
  isAsciiDigit char = true ∨ char ∈ ['.', 'e', '+', '-']

theorem numeral_char_code {char : Char} (numeral : IsNumeralChar char) :
    0x20 < char.toNat ∧ char.toNat < 0x80 ∧ char ≠ '_' := by
  rcases numeral with digit | mark
  · obtain ⟨low, high⟩ := ascii_digit_iff.mp digit
    refine ⟨by omega, by omega, ?_⟩
    rintro rfl
    simp [isAsciiDigit] at digit
  · fin_cases mark <;> decide

theorem ascii_form_of_numeral {char : Char} (numeral : IsNumeralChar char) :
    ((digit? char).map digitChar).getD char = char := by
  rcases numeral with digit | mark
  · rw [digit_of_ascii digit, Option.map_some, Option.getD_some, digit_char_of_ascii digit]
  · fin_cases mark <;> rfl

theorem exponent_text_numeral (width : ℕ) (exponent : ℤ) :
    ∀ char ∈ exponentText width exponent, IsNumeralChar char := by
  intro char member
  simp only [exponentText, List.mem_append, List.mem_cons, List.not_mem_nil, or_false] at member
  rcases member with ((mark | sign) | zero) | digit
  · exact .inr (by simp [mark])
  · rw [sign]
    split_ifs
    · exact .inr (by simp)
    · exact .inr (by simp)
  · exact .inl (zeros_ascii _ char zero)
  · exact .inl (nat_digits_ascii _ char digit)

theorem positional_numeral {digits : List Char} (ascii : ∀ char ∈ digits, isAsciiDigit char = true)
    (point : ℤ) : ∀ char ∈ positional digits point, IsNumeralChar char := by
  intro char member
  have zero : ∀ char ∈ ['0'], isAsciiDigit char = true := zeros_ascii 1
  rw [positional] at member
  by_cases small : point ≤ 0
  · rw [if_pos small] at member
    rcases List.mem_append.mp member with start | digit
    · rcases List.mem_append.mp start with lead | zeros
      · rcases List.mem_cons.mp lead with rfl | mark
        · exact .inl rfl
        · exact .inr (by simp [List.mem_singleton.mp mark])
      · exact .inl (zeros_ascii _ char zeros)
    · exact .inl (ascii char digit)
  · rw [if_neg small] at member
    rcases List.mem_append.mp member with start | fraction
    · rcases List.mem_append.mp start with whole | mark
      · rcases List.mem_append.mp whole with digit | zeros
        · exact .inl (ascii char (List.mem_of_mem_take digit))
        · exact .inl (zeros_ascii _ char zeros)
      · exact .inr (by simp [List.mem_singleton.mp mark])
    · split_ifs at fraction
      · exact .inl (zero char fraction)
      · exact .inl (ascii char (List.mem_of_mem_drop fraction))

theorem scientific_numeral (style : Style) {digits : List Char}
    (ascii : ∀ char ∈ digits, isAsciiDigit char = true) (exponent : ℤ) :
    ∀ char ∈ scientific style digits exponent, IsNumeralChar char := by
  intro char member
  match digits with
  | [] => exact absurd member List.not_mem_nil
  | [leading] =>
      rcases List.mem_cons.mp member with rfl | mark
      · exact .inl (ascii char List.mem_cons_self)
      · exact exponent_text_numeral _ _ char mark
  | leading :: second :: rest =>
      rcases List.mem_cons.mp member with rfl | others
      · exact .inl (ascii char List.mem_cons_self)
      · rcases List.mem_append.mp others with fraction | mark
        · rcases List.mem_cons.mp fraction with rfl | digit
          · exact .inr (by simp)
          · exact .inl (ascii char (List.mem_cons_of_mem _ digit))
        · exact exponent_text_numeral _ _ char mark

theorem layout_numeral (style : Style) (decimal : Scientific) :
    ∀ char ∈ layout style decimal, IsNumeralChar char := by
  unfold layout
  simp only
  split_ifs
  · exact positional_numeral (nat_digits_ascii _) _
  · exact scientific_numeral style (nat_digits_ascii _) _

theorem layout_head (style : Style) (decimal : Scientific) :
    ∃ digit rest, layout style decimal = digit :: rest ∧ isAsciiDigit digit = true := by
  unfold layout
  simp only
  generalize dropTrailingZeros decimal 20 = decimal
  obtain ⟨digit, rest, digits⟩ := List.exists_cons_of_ne_nil (nat_digits_ne_nil decimal.digits)
  have ascii := nat_digits_ascii decimal.digits digit (by rw [digits]; exact List.mem_cons_self)
  rw [digits]
  generalize decimal.exponent + ((digit :: rest).length : ℤ) - 1 = leading
  split_ifs
  · rw [positional]
    split_ifs with small
    · exact ⟨'0', _, rfl, rfl⟩
    · obtain ⟨place, placeIs⟩ := Nat.exists_eq_add_one_of_ne_zero
        (by omega : (leading + 1).toNat ≠ 0)
      rw [placeIs]
      exact ⟨digit, _, rfl, ascii⟩
  · cases rest with
    | nil => exact ⟨digit, _, rfl, ascii⟩
    | cons second rest => exact ⟨digit, _, rfl, ascii⟩

/-! ### Reading a layout -/

theorem read_word_of_digit {digit : Char} (ascii : isAsciiDigit digit = true) (rest : List Char) :
    readWord? (digit :: rest) = none := by
  obtain ⟨low, high⟩ := ascii_digit_iff.mp ascii
  have unchanged : digit.toLower = digit := lower_of_not_upper (.inl (by omega))
  have notWord (first : Char) (others : List Char) (letter : isAsciiDigit first = false) :
      String.ofList ((digit :: rest).map Char.toLower) ≠ String.ofList (first :: others) := by
    intro same
    have chars := String.ofList_injective same
    rw [List.map_cons, unchanged] at chars
    exact ne_of_ascii_digit ascii letter (List.cons.inj chars).1
  have notInf : ¬(String.ofList ((digit :: rest).map Char.toLower) = "inf" ∨
      String.ofList ((digit :: rest).map Char.toLower) = "infinity") := by
    rintro (short | long)
    · exact notWord 'i' ['n', 'f'] rfl short
    · exact notWord 'i' ['n', 'f', 'i', 'n', 'i', 't', 'y'] rfl long
  rw [readWord?, if_neg notInf, if_neg (notWord 'n' ['a', 'n'] rfl)]

theorem read_float_of_numeral {text : List Char} (numeral : ∀ char ∈ text, IsNumeralChar char) :
    readFloat? text = readSigned? text := by
  have trimmed : trimWith isSpace text = text :=
    trim_with_of_none fun char member =>
      not_space_of_printable (numeral_char_code (numeral char member)).1
        (numeral_char_code (numeral char member)).2.1
  have mapped : asciiDigits text = text := by
    rw [asciiDigits, List.map_congr_left fun char member => ascii_form_of_numeral (numeral char member),
      List.map_id']
  rw [readFloat?, trimmed, mapped, drop_underscores_of_plain isAsciiDigit
    fun char member => (numeral_char_code (numeral char member)).2.2]
  rfl

/-- A laid-out decimal that rounds to a double is read as the double, under either sign. -/
theorem read_float_layout (style : Style) {value : Binary} (canonical : value.Canonical)
    {decimal : Scientific} (nonzero : decimal.digits ≠ 0) (around : value.Around decimal.value) :
    readFloat? (layout style decimal) = some (value.toFloat canonical) ∧
      readFloat? ('-' :: layout style decimal) = some (-value.toFloat canonical) := by
  obtain ⟨digits, exponent, read, point⟩ := read_layout style decimal
  obtain ⟨digit, rest, text, ascii⟩ := layout_head style decimal
  have numeral := layout_numeral style decimal
  have positive : 0 < digits := by
    apply Nat.pos_of_ne_zero
    rintro rfl
    have decimalPositive : 0 < decimal.value :=
      mul_pos (by exact_mod_cast Nat.pos_of_ne_zero nonzero) (zpow_pos (by norm_num) _)
    rw [← point, Nat.cast_zero, zero_mul] at decimalPositive
    exact lt_irrefl 0 decimalPositive
  rw [← point] at around
  rw [nearest_around canonical positive around] at read
  have noWord : readWord? (layout style decimal) = none := by
    rw [text]
    exact read_word_of_digit ascii rest
  have sign : splitSign (layout style decimal) = (false, layout style decimal) := by
    apply split_sign_of_digit
    rw [text]
    intro char member
    cases member
    exact ascii
  constructor
  · rw [read_float_of_numeral numeral, readSigned?, sign]
    simp only [noWord, read]
    rfl
  · have signed : ∀ char ∈ '-' :: layout style decimal, IsNumeralChar char := by
      intro char member
      rcases List.mem_cons.mp member with rfl | inside
      · exact .inr (by simp)
      · exact numeral char inside
    rw [read_float_of_numeral signed, readSigned?, splitSign]
    simp only [noWord, read]
    rfl

/-! ### Doubles -/

theorem magnitude_of_finite {value : Float} {sign : UnpackedFloat.Sign} {mantissa : ℕ} {exponent : ℤ}
    {positive : 0 < mantissa}
    (unpacked : value.toModel.unpack = .finite sign mantissa exponent positive) :
    magnitudeBits value ≠ 0 := by
  intro zero
  have fraction : _ = (@unpackMantissa Format.binary64 value.toModel.toBits.toBitVec).toNat :=
    (magnitude_fraction value).trans (unpack_mantissa_to_nat _).symm
  have biased : _ = (@unpackExponent Format.binary64 value.toModel.toBits.toBitVec).toNat :=
    (magnitude_biased value).trans (unpack_exponent_to_nat _).symm
  rw [zero] at fraction biased
  have mantissaZero : @unpackMantissa Format.binary64 value.toModel.toBits.toBitVec = 0#_ :=
    BitVec.eq_of_toNat_eq fraction.symm
  have exponentZero : @unpackExponent Format.binary64 value.toModel.toBits.toBitVec = 0#_ :=
    BitVec.eq_of_toNat_eq biased.symm
  have zeroes : value.toModel.unpack = _ := unpack_zero exponentZero mantissaZero
  exact UnpackedFloat.noConfusion (zeroes.symm.trans unpacked)

/-- Every double reads back from its text. -/
theorem read_float_text (value : Float) :
    readFloat? (floatText plainStyle value).toList = some value := by
  have packed := pack_unpack value
  cases unpacked : value.toModel.unpack with
  | infinity sign =>
      rw [← packed, unpacked]
      cases sign <;> rfl
  | notANumber =>
      rw [← packed, unpacked]
      rfl
  | zero sign =>
      rw [← packed, unpacked]
      cases sign <;> rfl
  | finite sign mantissa exponent positive =>
      have number : value.isNaN = false := by
        change value.toModel.unpack.isNaN = false
        rw [unpacked]
        rfl
      have finite : value.isInf = false := by
        change value.toModel.unpack.isInf = false
        rw [unpacked]
        rfl
      have nonzero := magnitude_of_finite unpacked
      have canonical := magnitude_canonical number finite nonzero
      obtain ⟨digitsNonzero, around⟩ := shortest_around canonical
      obtain ⟨plain, minus⟩ := read_float_layout plainStyle canonical digitsNonzero around
      rw [unpack_finite number finite nonzero] at packed
      rw [floatText, String.toList_ofList, floatDigits]
      simp only [number, finite, nonzero, if_false, Bool.false_eq_true]
      by_cases negative : isMinus value = true
      · rw [if_pos negative, List.singleton_append, minus]
        rw [signOf, if_pos negative] at packed
        refine congrArg some (Eq.trans ?_ packed)
        change Float.ofModel (pack (UnpackedFloat.neg (Binary.toFloat _ canonical).toModel.unpack)) = _
        rw [unpack_to_float]
        rfl
      · rw [if_neg negative, List.nil_append, plain]
        rw [signOf, if_neg negative] at packed
        exact congrArg some packed

end PriceBoard.Decimal
