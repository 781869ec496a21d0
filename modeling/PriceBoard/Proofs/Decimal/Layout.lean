import PriceBoard.Decimal.Layout
import PriceBoard.Proofs.Decimal.Digits

/-!
# Laid-out decimals read back

Whatever the layout, the digits before and after the point and the exponent that are read stand for
the decimal that was laid out.
-/
namespace PriceBoard.Decimal

def Scientific.value (decimal : Scientific) : ℚ := decimal.digits * 10 ^ decimal.exponent

/-! ### The parts of a decimal -/

theorem read_decimal_whole {whole mark : List Char} {exponent : ℤ} (nonempty : whole ≠ [])
    (ascii : ∀ char ∈ whole, isAsciiDigit char = true)
    (stop : ∀ char ∈ mark.head?, isAsciiDigit char = false ∧ char ≠ '.')
    (read : readExponent? mark = some exponent) :
    readDecimal? (whole ++ mark) = some (nearest (ofDigits (whole.map asciiValue)) exponent) := by
  obtain ⟨taken, dropped⟩ := Text.scan_append ascii fun char member => (stop char member).1
  unfold readDecimal?
  simp only [taken, dropped]
  cases mark with
  | nil => simp [read, nonempty]
  | cons char rest =>
      have notPoint : char ≠ '.' := (stop char rfl).2
      simp [read, nonempty, notPoint]

theorem read_decimal_fraction {whole fraction mark : List Char} {exponent : ℤ}
    (nonempty : whole ≠ []) (wholeAscii : ∀ char ∈ whole, isAsciiDigit char = true)
    (fractionAscii : ∀ char ∈ fraction, isAsciiDigit char = true)
    (stop : ∀ char ∈ mark.head?, isAsciiDigit char = false)
    (read : readExponent? mark = some exponent) :
    readDecimal? (whole ++ '.' :: (fraction ++ mark)) =
      some (nearest (ofDigits ((whole ++ fraction).map asciiValue)) (exponent - fraction.length)) := by
  have point : ∀ char ∈ ('.' :: (fraction ++ mark)).head?, isAsciiDigit char = false := by
    intro char member
    cases member
    rfl
  obtain ⟨taken, dropped⟩ := Text.scan_append wholeAscii point
  obtain ⟨fractionTaken, fractionDropped⟩ := Text.scan_append fractionAscii stop
  unfold readDecimal?
  rw [taken, dropped]
  simp [fractionTaken, fractionDropped, read, nonempty]

/-! ### Values of digits -/

theorem of_digits_append (first second : List ℕ) :
    ofDigits (first ++ second) = ofDigits first * 10 ^ second.length + ofDigits second := by
  induction second using List.reverseRecOn with
  | nil => simp [ofDigits]
  | append_singleton second value induction =>
      rw [← List.append_assoc, of_digits_snoc, induction, of_digits_snoc, List.length_append,
        List.length_singleton, pow_succ]
      ring

theorem of_digits_zeros (count : ℕ) : ofDigits (List.replicate count 0) = 0 := by
  induction count with
  | zero => rfl
  | succ count induction => rw [List.replicate_succ', of_digits_snoc, induction]

theorem zeros_ascii (count : ℕ) : ∀ char ∈ List.replicate count '0', isAsciiDigit char = true := by
  intro char member
  rw [List.eq_of_mem_replicate member]
  rfl

theorem zeros_values (count : ℕ) :
    (List.replicate count '0').map asciiValue = List.replicate count 0 := by
  rw [List.map_replicate]
  rfl

theorem read_exponent_text (width : ℕ) (exponent : ℤ) :
    readExponent? (exponentText width exponent) = some exponent := by
  have ascii : ∀ char ∈ List.replicate (width - (natDigits exponent.natAbs).length) '0' ++
      natDigits exponent.natAbs, isAsciiDigit char = true := by
    intro char member
    rcases List.mem_append.mp member with zero | digit
    · exact zeros_ascii _ char zero
    · exact nat_digits_ascii _ char digit
  have value : ofDigits ((List.replicate (width - (natDigits exponent.natAbs).length) '0' ++
      natDigits exponent.natAbs).map asciiValue) = exponent.natAbs := by
    rw [List.map_append, zeros_values, of_digits_append, of_digits_zeros, of_digits_nat_digits,
      Nat.zero_mul, Nat.zero_add]
  have nonempty : List.replicate (width - (natDigits exponent.natAbs).length) '0' ++
      natDigits exponent.natAbs ≠ [] := List.append_ne_nil_of_right_ne_nil _ (nat_digits_ne_nil _)
  unfold exponentText
  simp only [List.cons_append, List.nil_append]
  generalize List.replicate (width - (natDigits exponent.natAbs).length) '0' ++
    natDigits exponent.natAbs = digits at ascii value nonempty
  have readable : (digits.isEmpty || !digits.all isAsciiDigit) = false := by
    rw [List.isEmpty_eq_false_iff.mpr nonempty, List.all_eq_true.mpr ascii]
    rfl
  by_cases negative : exponent < 0
  · rw [if_pos negative, readExponent?, splitSign]
    simp only [readable, value]
    have magnitude : -(exponent.natAbs : ℤ) = exponent := by omega
    exact congrArg some magnitude
  · rw [if_neg negative, readExponent?, splitSign]
    simp only [readable, value]
    have magnitude : (exponent.natAbs : ℤ) = exponent := by omega
    exact congrArg some magnitude

/-! ### The two notations -/

def ReadsAs (text : List Char) (point : ℚ) : Prop :=
  ∃ digits exponent, readDecimal? text = some (nearest digits exponent) ∧
    (digits : ℚ) * 10 ^ exponent = point

section

variable {digits : List Char}

theorem reads_point {fraction : List Char} (nonempty : digits ≠ [])
    (digitsAscii : ∀ char ∈ digits, isAsciiDigit char = true)
    (fractionAscii : ∀ char ∈ fraction, isAsciiDigit char = true) :
    ReadsAs (digits ++ '.' :: fraction)
      (ofDigits ((digits ++ fraction).map asciiValue) * 10 ^ (-(fraction.length : ℤ))) := by
  have stop : ∀ char ∈ ([] : List Char).head?, isAsciiDigit char = false := by
    intro char member
    cases member
  have read := read_decimal_fraction nonempty digitsAscii fractionAscii stop rfl
  rw [List.append_nil] at read
  refine ⟨_, _, read, ?_⟩
  rw [zero_sub]

theorem positional_small (ascii : ∀ char ∈ digits, isAsciiDigit char = true) {point : ℤ}
    (small : point ≤ 0) :
    ReadsAs (positional digits point)
      (ofDigits (digits.map asciiValue) * 10 ^ (point - digits.length)) := by
  have fractionAscii : ∀ char ∈ List.replicate point.natAbs '0' ++ digits,
      isAsciiDigit char = true := by
    intro char member
    rcases List.mem_append.mp member with zero | digit
    · exact zeros_ascii _ char zero
    · exact ascii char digit
  have read := reads_point (List.cons_ne_nil '0' []) (zeros_ascii 1) fractionAscii
  have value : ofDigits ((['0'] ++ (List.replicate point.natAbs '0' ++ digits)).map asciiValue) =
      ofDigits (digits.map asciiValue) := by
    rw [← List.append_assoc, List.singleton_append, ← List.replicate_succ, List.map_append,
      zeros_values, of_digits_append, of_digits_zeros, Nat.zero_mul, Nat.zero_add]
  have exponent : -((List.replicate point.natAbs '0' ++ digits).length : ℤ) =
      point - digits.length := by
    rw [List.length_append, List.length_replicate, Nat.cast_add]
    omega
  rw [value, exponent] at read
  rw [positional, if_pos small, List.append_assoc]
  exact read

theorem positional_inside (ascii : ∀ char ∈ digits, isAsciiDigit char = true) {point : ℕ}
    (positive : 0 < point) (inside : point < digits.length) :
    ReadsAs (positional digits point)
      (ofDigits (digits.map asciiValue) * 10 ^ ((point : ℤ) - digits.length)) := by
  have notSmall : ¬(point : ℤ) ≤ 0 := by omega
  have wholeLength : (digits.take point).length = point := by
    rw [List.length_take]
    omega
  have fractionLength : (digits.drop point).length = digits.length - point := List.length_drop
  have fractionNonempty : (digits.drop point).isEmpty = false :=
    List.isEmpty_eq_false_iff.mpr (List.ne_nil_of_length_pos (by omega))
  have fractionAscii : ∀ char ∈ digits.drop point, isAsciiDigit char = true :=
    fun char member => ascii char (List.mem_of_mem_drop member)
  have read := reads_point (List.ne_nil_of_length_pos (by omega : 0 < (digits.take point).length))
    (fun char member => ascii char (List.mem_of_mem_take member)) fractionAscii
  have exponent : -((digits.drop point).length : ℤ) = point - digits.length := by omega
  rw [List.take_append_drop, exponent] at read
  rw [positional, if_neg notSmall]
  simp only [Int.toNat_natCast, wholeLength, Nat.sub_self, List.replicate_zero, List.append_nil,
    fractionNonempty, Bool.false_eq_true, if_false, List.append_assoc, List.singleton_append]
  exact read

theorem positional_beyond (ascii : ∀ char ∈ digits, isAsciiDigit char = true)
    (nonempty : digits ≠ []) {point : ℕ} (beyond : digits.length ≤ point) :
    ReadsAs (positional digits point)
      (ofDigits (digits.map asciiValue) * 10 ^ ((point : ℤ) - digits.length)) := by
  have positive := List.length_pos_iff.mpr nonempty
  have notSmall : ¬(point : ℤ) ≤ 0 := by omega
  have wholeAscii : ∀ char ∈ digits ++ List.replicate (point - digits.length) '0',
      isAsciiDigit char = true := by
    intro char member
    rcases List.mem_append.mp member with digit | zero
    · exact ascii char digit
    · exact zeros_ascii _ char zero
  have read := reads_point (List.append_ne_nil_of_left_ne_nil nonempty _) wholeAscii (zeros_ascii 1)
  have value : ofDigits ((digits ++ List.replicate (point - digits.length) '0' ++
      List.replicate 1 '0').map asciiValue) =
        ofDigits (digits.map asciiValue) * 10 ^ (point - digits.length + 1) := by
    rw [List.append_assoc, List.replicate_append_replicate, List.map_append, zeros_values,
      of_digits_append, of_digits_zeros, List.length_replicate, Nat.add_zero]
  have exponent : (point : ℤ) - digits.length =
      ((point - digits.length + 1 : ℕ) : ℤ) + -((List.replicate 1 '0').length : ℤ) := by
    rw [List.length_replicate]
    omega
  rw [value, Nat.cast_mul, Nat.cast_pow, mul_assoc, Nat.cast_ofNat, ← zpow_natCast,
    ← zpow_add₀ (by norm_num), ← exponent] at read
  rw [positional, if_neg notSmall]
  simp only [Int.toNat_natCast, List.take_of_length_le beyond, List.drop_of_length_le beyond,
    List.isEmpty_nil, if_true, List.append_assoc, List.singleton_append]
  rw [List.append_assoc] at read
  exact read

theorem read_scientific (style : Style) (ascii : ∀ char ∈ digits, isAsciiDigit char = true)
    (nonempty : digits ≠ []) (exponent : ℤ) :
    ReadsAs (scientific style digits exponent)
      (ofDigits (digits.map asciiValue) * 10 ^ (exponent + 1 - digits.length)) := by
  have mark : ∀ char ∈ (exponentText style.exponentWidth exponent).head?,
      isAsciiDigit char = false ∧ char ≠ '.' := by
    intro char member
    cases member
    decide
  have read := read_exponent_text style.exponentWidth exponent
  match digits with
  | [] => exact absurd rfl nonempty
  | [leading] =>
      refine ⟨_, _, read_decimal_whole nonempty ascii mark read, ?_⟩
      rw [List.length_singleton, Nat.cast_one, add_sub_cancel_right]
  | leading :: second :: rest =>
      refine ⟨_, _, read_decimal_fraction (List.cons_ne_nil leading [])
        (fun char member => ascii char (by simp_all))
        (fun char member => ascii char (List.mem_cons_of_mem _ member))
        (fun char member => (mark char member).1) read, ?_⟩
      congr 2
      simp only [List.length_cons]
      push_cast
      ring

end

/-! ### The layout -/

theorem drop_trailing_zeros_value (decimal : Scientific) (steps : ℕ) :
    (dropTrailingZeros decimal steps).value = decimal.value := by
  induction steps generalizing decimal with
  | zero => rfl
  | succ steps induction =>
      rw [dropTrailingZeros]
      split_ifs with zero
      · have digits : decimal.digits / 10 * 10 = decimal.digits := by omega
        rw [induction, Scientific.value, Scientific.value, zpow_add₀ (by norm_num), zpow_one]
        conv_rhs => rw [← digits]
        push_cast
        ring
      · rfl

theorem read_layout (style : Style) (decimal : Scientific) :
    ReadsAs (layout style decimal) decimal.value := by
  rw [← drop_trailing_zeros_value decimal 20]
  unfold layout
  simp only
  generalize dropTrailingZeros decimal 20 = decimal
  have ascii := nat_digits_ascii decimal.digits
  have nonempty := nat_digits_ne_nil decimal.digits
  have value := of_digits_nat_digits decimal.digits
  obtain ⟨leading, leadingIs⟩ :
      ∃ leading, decimal.exponent + (natDigits decimal.digits).length - 1 = leading := ⟨_, rfl⟩
  have exponentIs : decimal.exponent = leading + 1 - (natDigits decimal.digits).length := by omega
  have pointIs : decimal.value = ofDigits ((natDigits decimal.digits).map asciiValue) *
      10 ^ (leading + 1 - ((natDigits decimal.digits).length : ℤ)) := by
    rw [Scientific.value, value, exponentIs]
  rw [leadingIs, pointIs]
  split_ifs with band
  · rcases lt_or_ge 0 (leading + 1) with positive | small
    · obtain ⟨place, placeIs⟩ := Int.eq_ofNat_of_zero_le positive.le
      rw [placeIs] at positive ⊢
      rcases lt_or_ge place (natDigits decimal.digits).length with inside | beyond
      · exact positional_inside ascii (by omega) inside
      · exact positional_beyond ascii nonempty beyond
    · exact positional_small ascii small
  · exact read_scientific style ascii nonempty leading

end PriceBoard.Decimal
