import PriceBoard.Proofs.Decimal.Packing
import PriceBoard.Decimal.Numeral

/-!
# The nearest double of a decimal

A decimal that lies in the interval around a double is read as that double: small decimals by one
exact multiplication or division of doubles, the others by the exact quotient or product, and in each
case the last step is one rounding of the exact value.
-/
namespace PriceBoard.Decimal

open Float.Model Float.Model.UnpackedFloat

def Binary.toFloat (value : Binary) (canonical : value.Canonical) : Float :=
  Float.ofModel (Float.Model.pack
    (.finite .positive value.mantissa value.exponent canonical.positive))

theorem unpack_to_float {value : Binary} (canonical : value.Canonical) :
    (value.toFloat canonical).toModel.unpack =
      .finite .positive value.mantissa value.exponent canonical.positive :=
  unpack_pack_finite .positive canonical.positive canonical.bounded canonical.least
    canonical.greatest canonical.subnormal

theorem around_self {value : Binary} : value.Around (value.mantissa * 2 ^ value.exponent) := by
  have step := two_zpow_pos value.exponent
  have gap := (gap_below_pos value).1
  refine ⟨?_, ?_, fun _ => ⟨?_, ?_⟩⟩ <;> nlinarith

theorem enough_of_normal {mantissa : ℕ} (normal : 2 ^ 52 ≤ mantissa) (exponent : ℤ) :
    exponent ≤ Format.binary64.targetExponent (totalExponent mantissa exponent) := by
  have lower : 52 ≤ mantissa.log2 :=
    (Nat.le_log2 (by omega)).mpr normal
  rw [target_exponent_eq, totalExponent]
  omega

/-! ### Products and quotients -/

section

variable {value : Binary} {first second : ℕ} {firstExponent secondExponent : ℤ}
  {firstPositive : 0 < first} {secondPositive : 0 < second}

theorem mul_around (canonical : value.Canonical)
    (around : value.Around (first * second * 2 ^ (firstExponent + secondExponent)))
    (normal : 2 ^ 52 ≤ first * second) :
    UnpackedFloat.mul Format.binary64 (.finite .positive first firstExponent firstPositive)
      (.finite .positive second secondExponent secondPositive) =
        .finite .positive value.mantissa value.exponent canonical.positive := by
  have step := two_zpow_pos (firstExponent + secondExponent)
  have described : Describes (.ofMantissaAndAccuracy (first * second) .exact)
      ((first : ℚ) * second * 2 ^ (firstExponent + secondExponent) /
        2 ^ (firstExponent + secondExponent)) := by
    rw [mul_div_assoc, div_self step.ne', mul_one]
    simp only [Describes, ExtendedMantissa.ofMantissaAndAccuracy]
    push_cast
    rfl
  exact round_around (.positive * .positive) canonical around described
    (enough_of_normal normal _)

theorem describes_quotient (dividend : ℕ) {divisor : ℕ} (positive : 0 < divisor) :
    Describes (.ofMantissaAndAccuracy (dividend / divisor)
      (accuracyOfFraction (dividend % divisor) divisor)) ((dividend : ℚ) / divisor) := by
  have split := Nat.div_add_mod dividend divisor
  have small := Nat.mod_lt dividend positive
  generalize dividend / divisor = quotient at split ⊢
  generalize dividend % divisor = rest at split small ⊢
  have divisorPositive : (0 : ℚ) < divisor := by exact_mod_cast positive
  have value : (dividend : ℚ) / divisor = quotient + rest / divisor := by
    rw [← split]
    push_cast
    field_simp
  rw [value, accuracyOfFraction]
  by_cases zero : rest = 0
  · rw [if_pos zero, zero]
    simp [Describes, ExtendedMantissa.ofMantissaAndAccuracy]
  · rw [if_neg zero]
    have restPositive : (0 : ℚ) < rest / divisor :=
      div_pos (by exact_mod_cast Nat.pos_of_ne_zero zero) divisorPositive
    have restSmall : (rest : ℚ) / divisor < 1 := by
      rw [div_lt_one divisorPositive]
      exact_mod_cast small
    rcases Nat.lt_trichotomy (2 * rest) divisor with less | same | greater
    · have half : (rest : ℚ) / divisor < 1 / 2 := by
        have cast : 2 * (rest : ℚ) < divisor := by exact_mod_cast less
        rw [div_lt_iff₀ divisorPositive]
        linarith
      rw [Nat.compare_eq_lt.mpr less]
      simp only [Describes, ExtendedMantissa.ofMantissaAndAccuracy]
      constructor <;> linarith
    · have half : (rest : ℚ) / divisor = 1 / 2 := by
        have cast : 2 * (rest : ℚ) = divisor := by exact_mod_cast same
        rw [div_eq_iff divisorPositive.ne']
        linarith
      rw [Nat.compare_eq_eq.mpr same, half]
      rfl
    · have half : 1 / 2 < (rest : ℚ) / divisor := by
        have cast : (divisor : ℚ) < 2 * rest := by exact_mod_cast greater
        rw [lt_div_iff₀ divisorPositive]
        linarith
      rw [Nat.compare_eq_gt.mpr greater]
      simp only [Describes, ExtendedMantissa.ofMantissaAndAccuracy]
      constructor <;> linarith

/-- The quotient is taken with so many digits that rounding it only drops some. -/
theorem div_enough (firstNonzero : 0 < first) (secondNonzero : 0 < second) {target : ℤ}
    {shift : ℕ} (shiftIs : firstExponent - secondExponent - target = shift)
    (bound : target ≤ Format.binary64.targetExponent
      (totalExponent first firstExponent - totalExponent second secondExponent)) :
    target ≤ Format.binary64.targetExponent
      (totalExponent (first <<< shift / second) target) := by
  rw [target_exponent_eq] at bound ⊢
  rcases le_or_gt target (-1074) with least | greater
  · exact least.trans (le_max_right _ _)
  · have room : target ≤ totalExponent first firstExponent -
        totalExponent second secondExponent - 53 := by
      omega
    have firstLow : 2 ^ first.log2 ≤ first := Nat.log2_self_le firstNonzero.ne'
    have secondHigh : second < 2 ^ (second.log2 + 1) := Nat.lt_log2_self
    have exponents : second.log2 + 1 + 52 ≤ first.log2 + shift := by
      simp only [totalExponent] at room
      omega
    have quotient : 2 ^ 52 ≤ first <<< shift / second := by
      rw [Nat.shiftLeft_eq, Nat.le_div_iff_mul_le secondNonzero]
      calc
        2 ^ 52 * second ≤ 2 ^ 52 * 2 ^ (second.log2 + 1) := by gcongr
        _ = 2 ^ (second.log2 + 1 + 52) := by rw [← pow_add, add_comm]
        _ ≤ 2 ^ (first.log2 + shift) := Nat.pow_le_pow_right (by decide) exponents
        _ = 2 ^ first.log2 * 2 ^ shift := by rw [pow_add]
        _ ≤ first * 2 ^ shift := by gcongr
    exact enough_of_normal quotient target

theorem div_around (canonical : value.Canonical)
    (around : value.Around (first / second * 2 ^ (firstExponent - secondExponent))) :
    UnpackedFloat.div Format.binary64 (.finite .positive first firstExponent firstPositive)
      (.finite .positive second secondExponent secondPositive) =
        .finite .positive value.mantissa value.exponent canonical.positive := by
  dsimp only [UnpackedFloat.div, divCore]
  generalize targetIs : min (firstExponent - secondExponent) (Format.binary64.targetExponent
    (totalExponent first firstExponent - totalExponent second secondExponent)) = target
  obtain ⟨shift, shiftIs⟩ : ∃ shift : ℕ, firstExponent - secondExponent - target = shift :=
    ⟨(firstExponent - secondExponent - target).toNat, by omega⟩
  rw [shiftIs, Int.toNat_natCast]
  have step := two_zpow_pos target
  have scaled : (first : ℚ) / second * 2 ^ (firstExponent - secondExponent) / 2 ^ target =
      ((first <<< shift : ℕ) : ℚ) / second := by
    rw [mul_div_assoc, ← zpow_sub₀ (by norm_num), shiftIs, zpow_natCast, Nat.shiftLeft_eq]
    push_cast
    ring
  have described := describes_quotient (first <<< shift) secondPositive
  rw [← scaled] at described
  exact round_around (.positive / .positive) canonical around described
    (div_enough firstPositive secondPositive shiftIs (by omega))

end

/-! ### Whole numbers and powers of ten -/

/-- A whole number of at most 53 bits, with its leading bit moved to the front. -/
def Binary.ofWhole (whole : ℕ) : Binary :=
  ⟨whole * 2 ^ (52 - whole.log2), (whole.log2 : ℤ) - 52, whole == 2 ^ whole.log2⟩

section

variable {whole : ℕ}

theorem of_whole_normal (positive : 0 < whole) (bounded : whole < 2 ^ 53) :
    2 ^ 52 ≤ (Binary.ofWhole whole).mantissa ∧ (Binary.ofWhole whole).mantissa < 2 ^ 53 := by
  have logarithm : whole.log2 < 53 := (Nat.log2_lt positive.ne').mpr bounded
  have lower : 2 ^ whole.log2 ≤ whole := Nat.log2_self_le positive.ne'
  have upper : whole < 2 ^ (whole.log2 + 1) := Nat.lt_log2_self
  have scale : 0 < 2 ^ (52 - whole.log2) := by positivity
  simp only [Binary.ofWhole]
  constructor
  · calc
      2 ^ 52 = 2 ^ whole.log2 * 2 ^ (52 - whole.log2) := by
        rw [← pow_add]
        congr 1
        omega
      _ ≤ whole * 2 ^ (52 - whole.log2) := by gcongr
  · calc
      whole * 2 ^ (52 - whole.log2) < 2 ^ (whole.log2 + 1) * 2 ^ (52 - whole.log2) := by gcongr
      _ = 2 ^ 53 := by
        rw [← pow_add]
        congr 1
        omega

theorem of_whole_canonical (positive : 0 < whole) (bounded : whole < 2 ^ 53) :
    (Binary.ofWhole whole).Canonical := by
  have logarithm : whole.log2 < 53 := (Nat.log2_lt positive.ne').mpr bounded
  obtain ⟨lower, upper⟩ := of_whole_normal positive bounded
  refine ⟨by omega, upper, ?_, ?_, by omega, ?_⟩
  · simp only [Binary.ofWhole]
    omega
  · simp only [Binary.ofWhole]
    omega
  · simp only [Binary.ofWhole, beq_iff_eq]
    have top : 2 ^ whole.log2 * 2 ^ (52 - whole.log2) = 2 ^ 52 := by
      rw [← pow_add]
      congr 1
      omega
    constructor
    · intro power
      exact ⟨by rw [← top, ← power], by omega⟩
    · rintro ⟨same, _⟩
      rw [← top] at same
      exact Nat.eq_of_mul_eq_mul_right (by positivity) same

theorem of_whole_value (positive : 0 < whole) (bounded : whole < 2 ^ 53) :
    ((Binary.ofWhole whole).mantissa : ℚ) * 2 ^ (Binary.ofWhole whole).exponent = whole := by
  have logarithm : whole.log2 < 53 := (Nat.log2_lt positive.ne').mpr bounded
  simp only [Binary.ofWhole]
  push_cast
  rw [← zpow_natCast, mul_assoc, ← zpow_add₀ (by norm_num), Nat.cast_sub (by omega)]
  have cancel : ((52 : ℕ) : ℤ) - whole.log2 + ((whole.log2 : ℤ) - 52) = 0 := by omega
  rw [cancel, zpow_zero, mul_one]

/-- Whole numbers of at most 53 bits are doubles. -/
theorem unpack_whole (positive : 0 < whole) (bounded : whole < 2 ^ 53) :
    whole.toUInt64.toFloat.toModel.unpack =
      .finite .positive (Binary.ofWhole whole).mantissa (Binary.ofWhole whole).exponent
        (of_whole_canonical positive bounded).positive := by
  have canonical := of_whole_canonical positive bounded
  have logarithm : whole.log2 < 53 := (Nat.log2_lt positive.ne').mpr bounded
  have target : Format.binary64.targetExponent (totalExponent whole 0) =
      (Binary.ofWhole whole).exponent := by
    simp only [target_exponent_eq, totalExponent, Binary.ofWhole]
    omega
  have word : whole.toUInt64.toNat = whole := by
    change whole % 2 ^ 64 = whole
    omega
  have described : Describes (.ofMantissaAndAccuracy (Binary.ofWhole whole).mantissa .exact)
      (((Binary.ofWhole whole).mantissa : ℚ) * 2 ^ (Binary.ofWhole whole).exponent /
        2 ^ (Binary.ofWhole whole).exponent) := by
    rw [mul_div_assoc, div_self (two_zpow_pos _).ne', mul_one]
    rfl
  have rounded : UnpackedFloat.round Format.binary64 .positive whole 0 =
      .finite .positive (Binary.ofWhole whole).mantissa (Binary.ofWhole whole).exponent
        canonical.positive := by
    have shift : (0 - (Binary.ofWhole whole).exponent).toNat = 52 - whole.log2 := by
      simp only [Binary.ofWhole]
      omega
    have mantissa : whole <<< (52 - whole.log2) = (Binary.ofWhole whole).mantissa := by
      rw [Nat.shiftLeft_eq]
      rfl
    have exponent : (0 : ℤ) - ((52 - whole.log2 : ℕ) : ℤ) = (Binary.ofWhole whole).exponent := by
      simp only [Binary.ofWhole]
      omega
    dsimp only [UnpackedFloat.round, decreaseExponent]
    rw [target, shift, mantissa, exponent]
    exact round_around .positive canonical around_self described
      (enough_of_normal (of_whole_normal positive bounded).1 _)
  have normalized : UnpackedFloat.ofUInt64 Format.binary64 whole.toUInt64 =
      UnpackedFloat.round Format.binary64 .positive whole 0 := by
    have sign : Ord.compare (whole : ℤ) 0 = .gt := Int.compare_eq_gt.mpr (by omega)
    simp only [UnpackedFloat.ofUInt64, UnpackedFloat.ofNat, UnpackedFloat.ofInt,
      UnpackedFloat.normalize, word, sign, Int.toNat_natCast]
  change UnpackedFloat.unpack Format.binary64 (UnpackedFloat.pack Format.binary64
    (UnpackedFloat.ofUInt64 Format.binary64 whole.toUInt64)) = _
  rw [normalized, rounded]
  exact unpack_pack_finite .positive canonical.positive canonical.bounded canonical.least
    canonical.greatest canonical.subnormal

end

/-- A power of ten that is a double. -/
def tableTen (power : ℕ) (small : power < 23) : Float :=
  have inTable : power < Float.exactlyRepresentablePowersOfTen.size := by
    simpa [Float.exactlyRepresentablePowersOfTen] using small
  Float.exactlyRepresentablePowersOfTen[power]

/-- The bits of the table: the power with its leading bit at the front. -/
theorem table_ten_bits : ∀ power : Fin 23,
    (tableTen power.val power.isLt).toModel.toBits.toBitVec.toNat =
        (10 ^ power.val).log2 * 2 ^ 52 + 1023 * 2 ^ 52 +
          (10 ^ power.val * 2 ^ 52 / 2 ^ (10 ^ power.val).log2 - 2 ^ 52) ∧
      10 ^ power.val * 2 ^ 52 / 2 ^ (10 ^ power.val).log2 * 2 ^ (10 ^ power.val).log2 =
        10 ^ power.val * 2 ^ 52 := by
  decide +kernel

theorem unpack_table_ten {power : ℕ} (small : power < 23) :
    ∃ mantissa, ∃ exponent : ℤ, ∃ positive : 0 < mantissa, 2 ^ 52 ≤ mantissa ∧
      (tableTen power small).toModel.unpack = .finite .positive mantissa exponent positive ∧
      (mantissa : ℚ) * 2 ^ exponent = 10 ^ power := by
  obtain ⟨bits, exact⟩ := table_ten_bits ⟨power, small⟩
  simp only at bits exact
  generalize tableTen power small = table at bits ⊢
  have powerPositive : 10 ^ power ≠ 0 := by positivity
  have lower : 2 ^ (10 ^ power).log2 ≤ 10 ^ power := Nat.log2_self_le powerPositive
  have upper : 10 ^ power < 2 ^ ((10 ^ power).log2 + 1) := Nat.lt_log2_self
  have logarithm : (10 ^ power).log2 < 74 := by
    apply (Nat.log2_lt powerPositive).mpr
    calc
      10 ^ power ≤ 10 ^ 22 := Nat.pow_le_pow_right (by decide) (by omega)
      _ < 2 ^ 74 := by norm_num
  generalize (10 ^ power).log2 = exponent at *
  have scale : 0 < 2 ^ exponent := by positivity
  have normal : 2 ^ 52 ≤ 10 ^ power * 2 ^ 52 / 2 ^ exponent := by
    rw [Nat.le_div_iff_mul_le scale, mul_comm]
    gcongr
  have bounded : 10 ^ power * 2 ^ 52 / 2 ^ exponent < 2 ^ 53 := by
    rw [Nat.div_lt_iff_lt_mul scale]
    calc
      10 ^ power * 2 ^ 52 < 2 ^ (exponent + 1) * 2 ^ 52 := by gcongr
      _ = 2 ^ 53 * 2 ^ exponent := by ring
  generalize 10 ^ power * 2 ^ 52 / 2 ^ exponent = mantissa at *
  have exponentIs := unpack_exponent_to_nat table.toModel.toBits.toBitVec
  have mantissaIs := unpack_mantissa_to_nat table.toModel.toBits.toBitVec
  have signIs := unpack_sign_to_nat table.toModel.toBits.toBitVec
  rw [bits] at exponentIs mantissaIs signIs
  have positiveSign : Sign.ofBitVec (@unpackSign Format.binary64
      table.toModel.toBits.toBitVec) = .positive := by
    have zero : @unpackSign Format.binary64 table.toModel.toBits.toBitVec = 0#1 := by
      apply BitVec.eq_of_toNat_eq
      rw [signIs]
      change _ = 0
      omega
    rw [zero]
    rfl
  refine ⟨2 ^ 52 + (mantissa - 2 ^ 52), ((exponent + 1023 : ℕ) : ℤ) - 1075, by omega,
    by omega, ?_, ?_⟩
  · exact unpack_normal (by rw [exponentIs]; omega) (by omega) (by omega)
      (by rw [mantissaIs]; omega) positiveSign
  · have whole : 2 ^ 52 + (mantissa - 2 ^ 52) = mantissa := by omega
    have exactCast : (mantissa : ℚ) * 2 ^ exponent = 10 ^ power * 2 ^ 52 := by
      exact_mod_cast exact
    have exponentEq : ((exponent + 1023 : ℕ) : ℤ) - 1075 = (exponent : ℤ) - (52 : ℕ) := by
      push_cast
      ring
    rw [whole, exponentEq, zpow_sub₀ (by norm_num), zpow_natCast, zpow_natCast, ← mul_div_assoc,
      exactCast]
    field_simp

/-! ### Decimals -/

section

variable {value : Binary} {digits power : ℕ}

theorem around_low (canonical : value.Canonical) {point : ℚ} (around : value.Around point) :
    2 ^ (-1075 : ℤ) ≤ point := by
  obtain ⟨low, _, _⟩ := around
  have gap := (gap_below_pos value).2
  have whole : (1 : ℚ) ≤ value.mantissa := by exact_mod_cast canonical.positive
  have step : (2 : ℚ) ^ (-1074 : ℤ) ≤ 2 ^ value.exponent :=
    zpow_le_zpow_right₀ (by norm_num) canonical.least
  have half : (2 : ℚ) ^ (-1075 : ℤ) = 1 / 2 * 2 ^ (-1074 : ℤ) := by
    rw [show (-1074 : ℤ) = -1075 + 1 by norm_num, zpow_add₀ (by norm_num)]
    ring
  rw [half]
  nlinarith [two_zpow_pos value.exponent]

theorem around_high (canonical : value.Canonical) {point : ℚ} (around : value.Around point) :
    point < 2 ^ (1024 : ℤ) := by
  apply (around_lt canonical around).trans_le
  apply zpow_le_zpow_right₀ (by norm_num)
  have greatest := canonical.greatest
  omega

/-- Small decimals are one product of doubles. -/
theorem small_product (canonical : value.Canonical) (positive : 0 < digits)
    (bounded : digits < 2 ^ 53) (small : power < 23) (around : value.Around (digits * 10 ^ power)) :
    digits.toUInt64.toFloat * tableTen power small = value.toFloat canonical := by
  obtain ⟨mantissa, exponent, mantissaPositive, normal, table, exact⟩ := unpack_table_ten small
  generalize tableTen power small = ten at table ⊢
  change Float.ofModel (Float.Model.pack (UnpackedFloat.mul Format.binary64
    digits.toUInt64.toFloat.toModel.unpack ten.toModel.unpack)) = _
  rw [table, unpack_whole positive bounded]
  have wholeNormal := (of_whole_normal positive bounded).1
  rw [mul_around canonical]
  · rfl
  · have whole := of_whole_value positive bounded
    convert around using 1
    rw [← whole, ← exact, zpow_add₀ (by norm_num)]
    ring
  · calc
      2 ^ 52 ≤ 2 ^ 52 * 2 ^ 52 := by norm_num
      _ ≤ (Binary.ofWhole digits).mantissa * mantissa := by gcongr

theorem small_quotient (canonical : value.Canonical) (positive : 0 < digits)
    (bounded : digits < 2 ^ 53) (small : power < 23) (around : value.Around (digits / 10 ^ power)) :
    digits.toUInt64.toFloat / tableTen power small = value.toFloat canonical := by
  obtain ⟨mantissa, exponent, mantissaPositive, normal, table, exact⟩ := unpack_table_ten small
  generalize tableTen power small = ten at table ⊢
  change Float.ofModel (Float.Model.pack (UnpackedFloat.div Format.binary64
    digits.toUInt64.toFloat.toModel.unpack ten.toModel.unpack)) = _
  rw [table, unpack_whole positive bounded, div_around canonical]
  · rfl
  · have whole := of_whole_value positive bounded
    convert around using 1
    rw [← whole, ← exact, zpow_sub₀ (by norm_num)]
    field_simp

theorem of_whole_scientific (canonical : value.Canonical) (positive : 0 < digits)
    (around : value.Around digits) :
    Float.ofScientific digits false 0 = value.toFloat canonical := by
  unfold Float.ofScientific
  by_cases fast : digits < 2 ^ 53 ∧ 0 ≤ 22
  · rw [dif_pos fast]
    exact small_product canonical positive fast.1 (by decide) (by simpa using around)
  · rw [dif_neg fast]
    apply congrArg (fun unpacked => Float.ofModel (Float.Model.pack unpacked))
    change UnpackedFloat.ofScientific Format.binary64 digits 0 = _
    have inRange : ¬(0 : ℤ) > 2 ^ Format.binary64.exponentBits := by decide
    have notTiny : ¬(0 : ℤ) < -((2 ^ Format.binary64.exponentBits : ℤ) + digits.log2) := by
      change ¬(0 : ℤ) < -(2048 + (digits.log2 : ℤ))
      omega
    rw [UnpackedFloat.ofScientific, dif_neg positive.ne', if_neg inRange, if_neg notTiny,
      if_pos le_rfl]
    apply mul_around canonical
    · convert around using 1
      change ((digits <<< 53 : ℕ) : ℚ) * ((10 ^ (0 : ℤ).toNat : ℕ) : ℚ) *
        2 ^ (-((53 : ℕ) : ℤ) + 0) = digits
      rw [Nat.shiftLeft_eq]
      push_cast
      norm_num
      ring
    · change 2 ^ 52 ≤ digits <<< 53 * 10 ^ (0 : ℤ).toNat
      rw [Nat.shiftLeft_eq]
      simp only [Int.toNat_zero, pow_zero, mul_one]
      omega

theorem of_fraction_scientific (canonical : value.Canonical) (positive : 0 < digits)
    (around : value.Around (digits / 10 ^ (power + 1))) :
    Float.ofScientific digits true (power + 1) = value.toFloat canonical := by
  unfold Float.ofScientific
  by_cases fast : digits < 2 ^ 53 ∧ power + 1 ≤ 22
  · rw [dif_pos fast]
    exact small_quotient canonical positive fast.1 (by omega) around
  · rw [dif_neg fast]
    apply congrArg (fun unpacked => Float.ofModel (Float.Model.pack unpacked))
    change UnpackedFloat.ofScientific Format.binary64 digits (-((power + 1 : ℕ) : ℤ)) = _
    have inRange : ¬-((power + 1 : ℕ) : ℤ) > 2 ^ Format.binary64.exponentBits := by
      change ¬-((power + 1 : ℕ) : ℤ) > 2048
      omega
    have notTiny : ¬-((power + 1 : ℕ) : ℤ) <
        -((2 ^ Format.binary64.exponentBits : ℤ) + digits.log2) := by
      change ¬-((power + 1 : ℕ) : ℤ) < -(2048 + (digits.log2 : ℤ))
      intro tiny
      have low := around_low canonical around
      have digitsHigh : (digits : ℚ) < 2 ^ (digits.log2 + 1) := by
        exact_mod_cast (Nat.lt_log2_self : digits < 2 ^ (digits.log2 + 1))
      have powerHigh : (2 : ℚ) ^ (power + 1) ≤ 10 ^ (power + 1) := by gcongr; norm_num
      have quotient : (digits : ℚ) / 10 ^ (power + 1) < 2 ^ (-1075 : ℤ) := by
        rw [div_lt_iff₀ (by positivity)]
        calc
          (digits : ℚ) < 2 ^ (digits.log2 + 1) := digitsHigh
          _ = 2 ^ ((digits.log2 + 1 : ℕ) : ℤ) := (zpow_natCast _ _).symm
          _ ≤ 2 ^ ((-1075 : ℤ) + (power + 1 : ℕ)) := zpow_le_zpow_right₀ (by norm_num) (by omega)
          _ = 2 ^ (-1075 : ℤ) * 2 ^ (power + 1) := by
            rw [zpow_add₀ (by norm_num), zpow_natCast]
          _ ≤ 2 ^ (-1075 : ℤ) * 10 ^ (power + 1) := by gcongr
      linarith
    have negative : ¬0 ≤ -((power + 1 : ℕ) : ℤ) := by omega
    rw [UnpackedFloat.ofScientific, dif_neg positive.ne', if_neg inRange, if_neg notTiny,
      if_neg negative]
    apply div_around canonical
    convert around using 1
    rw [neg_neg, Int.toNat_natCast]
    push_cast
    norm_num

end

theorem decimal_length_bounds {digits : ℕ} (positive : 0 < digits) :
    10 ^ (decimalLength digits - 1) ≤ digits ∧ digits < 10 ^ decimalLength digits ∧
      1 ≤ decimalLength digits := by
  induction digits using Nat.strong_induction_on with
  | _ digits induction =>
      rw [decimalLength]
      split_ifs with small
      · exact ⟨positive, by simpa using small, le_rfl⟩
      · obtain ⟨low, high, atLeast⟩ := induction (digits / 10) (by omega) (by omega)
        have split : 10 ^ decimalLength (digits / 10) =
            10 * 10 ^ (decimalLength (digits / 10) - 1) := by
          rw [← pow_succ']
          congr 1
          omega
        refine ⟨?_, ?_, by omega⟩
        · rw [Nat.add_sub_cancel, split]
          omega
        · rw [pow_succ]
          omega

theorem power_limits : (2 : ℚ) ^ (1075 : ℤ) ≤ 10 ^ (400 : ℤ) := by
  have natural : (2 : ℚ) ^ 1075 ≤ 10 ^ 400 := by
    calc
      (2 : ℚ) ^ 1075 ≤ 2 ^ (135 * 8) := pow_le_pow_right₀ (by norm_num) (by norm_num)
      _ = (2 ^ 135) ^ 8 := pow_mul _ _ _
      _ ≤ (10 ^ 50) ^ 8 := pow_le_pow_left₀ (by norm_num) (by norm_num) _
      _ = 10 ^ 400 := (pow_mul _ _ _).symm
  exact_mod_cast natural

/-- A decimal in the interval around a double is read as the double. -/
theorem nearest_around {value : Binary} {digits : ℕ} {exponent : ℤ} (canonical : value.Canonical)
    (positive : 0 < digits) (around : value.Around (digits * 10 ^ exponent)) :
    nearest digits exponent = value.toFloat canonical := by
  obtain ⟨low, high, atLeast⟩ := decimal_length_bounds positive
  have step : (0 : ℚ) < 10 ^ exponent := zpow_pos (by norm_num) _
  have lowCast : (10 : ℚ) ^ (decimalLength digits - 1) ≤ digits := by exact_mod_cast low
  have highCast : (digits : ℚ) < 10 ^ decimalLength digits := by exact_mod_cast high
  have notHuge : ¬400 < (decimalLength digits : ℤ) + exponent := by
    intro huge
    have above : (10 : ℚ) ^ (400 : ℤ) ≤ digits * 10 ^ exponent := by
      calc
        (10 : ℚ) ^ (400 : ℤ) ≤ 10 ^ (((decimalLength digits - 1 : ℕ) : ℤ) + exponent) :=
          zpow_le_zpow_right₀ (by norm_num) (by omega)
        _ = 10 ^ (decimalLength digits - 1) * 10 ^ exponent := by
          rw [zpow_add₀ (by norm_num), zpow_natCast]
        _ ≤ digits * 10 ^ exponent := by gcongr
    have below := around_high canonical around
    have limits : (2 : ℚ) ^ (1024 : ℤ) ≤ 10 ^ (400 : ℤ) :=
      (zpow_le_zpow_right₀ (by norm_num) (by norm_num)).trans power_limits
    exact absurd (above.trans_lt below) (not_lt.mpr limits)
  have notTiny : ¬(decimalLength digits : ℤ) + exponent < -400 := by
    intro tiny
    have below : digits * 10 ^ exponent < (10 : ℚ) ^ (-400 : ℤ) := by
      calc
        (digits : ℚ) * 10 ^ exponent < 10 ^ decimalLength digits * 10 ^ exponent := by gcongr
        _ = 10 ^ ((decimalLength digits : ℤ) + exponent) := by
          rw [zpow_add₀ (by norm_num), zpow_natCast]
        _ ≤ 10 ^ (-400 : ℤ) := zpow_le_zpow_right₀ (by norm_num) (by omega)
    have above := around_low canonical around
    have limits : (10 : ℚ) ^ (-400 : ℤ) ≤ 2 ^ (-1075 : ℤ) := by
      rw [zpow_neg, zpow_neg]
      exact inv_anti₀ (two_zpow_pos 1075) power_limits
    exact absurd (above.trans_lt below) (not_lt.mpr limits)
  unfold nearest
  simp only
  rw [if_neg positive.ne', if_neg notHuge, if_neg notTiny]
  cases exponent with
  | ofNat places =>
      have scaled : 0 < digits * tenTo places := Nat.mul_pos positive (by simp [tenTo])
      apply of_whole_scientific canonical scaled
      convert around using 1
      simp [tenTo]
  | negSucc places =>
      apply of_fraction_scientific canonical positive
      convert around using 1
      rw [zpow_negSucc, div_eq_mul_inv]

end PriceBoard.Decimal
