import PriceBoard.Proofs.Decimal.Nearest

/-!
# The digits of a double lie in its interval

The test on quarter steps says exactly that a decimal lies in the interval around the double. The
search ends in a decimal that passes it, because with eighteen digits the multiple just below the
double does.
-/
namespace PriceBoard.Decimal

/-! ### Ratios -/

def Ratio.value (ratio : Ratio) : ℚ := ratio.num / ratio.den

theorem ratio_shift_den {ratio : Ratio} (positive : 0 < ratio.den) (shift : ℤ) :
    0 < (ratio.shift shift).den := by
  cases shift with
  | ofNat places => exact positive
  | negSucc places => exact Nat.mul_pos positive (by simp [tenTo])

theorem ratio_shift_value (ratio : Ratio) (shift : ℤ) :
    (ratio.shift shift).value = ratio.value * 10 ^ shift := by
  cases shift with
  | ofNat places =>
      simp only [Ratio.shift, Ratio.value, tenTo, Nat.pow_eq]
      push_cast
      rw [Int.ofNat_eq_natCast, zpow_natCast, mul_div_right_comm]
  | negSucc places =>
      simp only [Ratio.shift, Ratio.value, tenTo, Nat.pow_eq, zpow_negSucc]
      push_cast
      rw [← div_div, div_eq_mul_inv]

theorem binary_ratio_den (value : Binary) : 0 < value.ratio.den := by
  unfold Binary.ratio
  cases value.exponent with
  | ofNat places => exact Nat.one_pos
  | negSucc places => simp [twoTo]

theorem binary_ratio_value (value : Binary) :
    value.ratio.value = value.mantissa * 2 ^ value.exponent := by
  unfold Binary.ratio Ratio.value
  cases value.exponent with
  | ofNat places => simp [twoTo]
  | negSucc places => simp [twoTo, div_eq_mul_inv, zpow_negSucc]

/-- The rounded-down quotient and what it leaves. -/
theorem ratio_floor {ratio : Ratio} (positive : 0 < ratio.den) :
    ((ratio.num / ratio.den : ℕ) : ℚ) ≤ ratio.value ∧
      ratio.value < (ratio.num / ratio.den : ℕ) + 1 := by
  have denPositive : (0 : ℚ) < ratio.den := by exact_mod_cast positive
  have split := Nat.div_add_mod ratio.num ratio.den
  have small := Nat.mod_lt ratio.num positive
  unfold Ratio.value
  rw [le_div_iff₀ denPositive, div_lt_iff₀ denPositive]
  constructor
  · have bound : ratio.num / ratio.den * ratio.den ≤ ratio.num := Nat.div_mul_le_self _ _
    exact_mod_cast bound
  · have bound : ratio.num < (ratio.num / ratio.den + 1) * ratio.den := by
      rw [Nat.add_mul, Nat.one_mul, Nat.mul_comm]
      omega
    exact_mod_cast bound

theorem leading_exponent_le {ratio : Ratio} (numPositive : 0 < ratio.num)
    (denPositive : 0 < ratio.den) : (10 : ℚ) ^ ratio.leadingExponent ≤ ratio.value := by
  have denCast : (0 : ℚ) < ratio.den := by exact_mod_cast denPositive
  unfold Ratio.leadingExponent
  split_ifs with atLeastOne
  · have whole : 0 < ratio.num / ratio.den := Nat.div_pos atLeastOne denPositive
    obtain ⟨low, _, atLeast⟩ := decimal_length_bounds whole
    have floor := (ratio_floor denPositive).1
    have lowCast : (10 : ℚ) ^ (decimalLength (ratio.num / ratio.den) - 1) ≤
        (ratio.num / ratio.den : ℕ) := by exact_mod_cast low
    have exponent : (decimalLength (ratio.num / ratio.den) : ℤ) - 1 =
        ((decimalLength (ratio.num / ratio.den) - 1 : ℕ) : ℤ) := by omega
    rw [exponent, zpow_natCast]
    exact lowCast.trans floor
  · have high : (ratio.den - 1) / ratio.num <
        10 ^ decimalLength ((ratio.den - 1) / ratio.num) := by
      rcases Nat.eq_zero_or_pos ((ratio.den - 1) / ratio.num) with zero | positive
      · rw [zero]
        positivity
      · exact (decimal_length_bounds positive).2.1
    generalize decimalLength ((ratio.den - 1) / ratio.num) = length at high ⊢
    have bound : ratio.den ≤ 10 ^ length * ratio.num := by
      have strict := (Nat.div_lt_iff_lt_mul numPositive).mp high
      omega
    rw [Ratio.value, zpow_neg, zpow_natCast, le_div_iff₀ denCast,
      inv_mul_le_iff₀ (by positivity)]
    exact_mod_cast bound

/-! ### The test -/

theorem accepts_iff_around (value : Binary) (unit : ℤ) (digits : ℕ) :
    value.accepts unit digits = true ↔ value.Around (digits * 10 ^ unit) := by
  have ten : (0 : ℚ) < 10 ^ unit := zpow_pos (by norm_num) _
  have denPositive := ratio_shift_den
    (binary_ratio_den { value with mantissa := 1 }) (-unit)
  have stepValue := ratio_shift_value (Binary.ratio { value with mantissa := 1 }) (-unit)
  rw [binary_ratio_value, zpow_neg, Nat.cast_one, one_mul] at stepValue
  unfold Binary.accepts
  simp only
  generalize (Binary.ratio { value with mantissa := 1 }).shift (-unit) = step at denPositive stepValue ⊢
  have denCast : (0 : ℚ) < step.den := by exact_mod_cast denPositive
  -- one step of the double, in units of the grid
  have scale : (2 : ℚ) ^ value.exponent * step.den = step.num * 10 ^ unit := by
    rw [Ratio.value, div_eq_iff denCast.ne'] at stepValue
    rw [stepValue]
    field_simp
  have transfer (coefficient : ℚ) : coefficient * 2 ^ value.exponent * step.den =
      coefficient * step.num * 10 ^ unit := by
    rw [mul_assoc, scale, mul_assoc]
  have lower (coefficient : ℚ) : coefficient * 2 ^ value.exponent ≤ digits * 10 ^ unit ↔
      coefficient * step.num ≤ digits * step.den := by
    rw [← mul_le_mul_iff_of_pos_right denCast, transfer, mul_right_comm (digits : ℚ),
      mul_le_mul_iff_of_pos_right ten]
  have lowerStrict (coefficient : ℚ) : coefficient * 2 ^ value.exponent < digits * 10 ^ unit ↔
      coefficient * step.num < digits * step.den := by
    rw [← mul_lt_mul_iff_of_pos_right denCast, transfer, mul_right_comm (digits : ℚ),
      mul_lt_mul_iff_of_pos_right ten]
  have upper (coefficient : ℚ) : (digits : ℚ) * 10 ^ unit ≤ coefficient * 2 ^ value.exponent ↔
      digits * step.den ≤ coefficient * step.num := by
    rw [← mul_le_mul_iff_of_pos_right denCast, transfer, mul_right_comm (digits : ℚ),
      mul_le_mul_iff_of_pos_right ten]
  have upperStrict (coefficient : ℚ) : (digits : ℚ) * 10 ^ unit < coefficient * 2 ^ value.exponent ↔
      digits * step.den < coefficient * step.num := by
    rw [← mul_lt_mul_iff_of_pos_right denCast, transfer, mul_right_comm (digits : ℚ),
      mul_lt_mul_iff_of_pos_right ten]
  have below : ((if value.atPower then step.num else 2 * step.num : ℕ) : ℚ) =
      4 * value.gapBelow * step.num := by
    unfold Binary.gapBelow
    split_ifs
    · ring
    · push_cast
      ring
  generalize (if value.atPower then step.num else 2 * step.num) = gap at below ⊢
  unfold Binary.Around
  rw [lower, upper, lowerStrict, upperStrict]
  split_ifs with even
  · have notOdd : ¬value.mantissa % 2 = 1 := by omega
    simp only [Bool.and_eq_true, decide_eq_true_iff, notOdd, false_implies, and_true]
    rw [← Nat.cast_le (α := ℚ), ← Nat.cast_le (α := ℚ)]
    push_cast
    rw [below]
    constructor <;> rintro ⟨first, second⟩ <;> constructor <;> linarith
  · have odd : value.mantissa % 2 = 1 := by omega
    simp only [Bool.and_eq_true, decide_eq_true_iff, odd, true_implies]
    rw [← Nat.cast_lt (α := ℚ), ← Nat.cast_lt (α := ℚ)]
    push_cast
    rw [below]
    constructor
    · rintro ⟨first, second⟩
      refine ⟨?_, ?_, ?_, ?_⟩ <;> linarith
    · rintro ⟨_, _, first, second⟩
      constructor <;> linarith

/-! ### The search -/

section

variable {value : Binary}

theorem on_grid_sound {unit : ℤ} {digits : ℕ} (found : value.onGrid? unit = some digits) :
    value.accepts unit digits = true ∧ digits ≠ 0 := by
  unfold Binary.onGrid? at found
  simp only at found
  generalize (value.ratio.shift (-unit)).num / (value.ratio.shift (-unit)).den = low at found
  have lowSound (fits : (value.accepts unit low && decide (low ≠ 0)) = true) :
      value.accepts unit low = true ∧ low ≠ 0 := by simpa using fits
  split at found
  · split_ifs at found with fits
    cases found
    exact lowSound fits
  · split at found
    · simp at found
    · next fits _ =>
        cases found
        exact lowSound fits
    · next highFits =>
        cases found
        exact ⟨highFits, by omega⟩
    · next fits highFits =>
        have high : value.accepts unit (low + 1) = true ∧ low + 1 ≠ 0 := ⟨highFits, by omega⟩
        split_ifs at found <;> cases found
        · exact lowSound fits
        · exact high
        · exact lowSound fits
        · exact high

/-- The multiple just below the double is a hit if it passes the test. -/
theorem on_grid_of_low {unit : ℤ} {low : ℕ}
    (lowIs : (value.ratio.shift (-unit)).num / (value.ratio.shift (-unit)).den = low)
    (accepted : value.accepts unit low = true) (nonzero : low ≠ 0) :
    (value.onGrid? unit).isSome = true := by
  unfold Binary.onGrid?
  simp only [lowIs]
  have fits : (value.accepts unit low && decide (low ≠ 0)) = true := by
    simp [accepted, nonzero]
  rw [fits]
  split
  · rfl
  · cases value.accepts unit (low + 1) with
    | false => rfl
    | true =>
        simp only
        split_ifs <;> rfl

theorem first_hit_sound (leading : ℤ) (grids count : ℕ)
    (hit : ∃ more < grids, (value.onGrid? (leading - (count + more : ℕ) + 1)).isSome = true) :
    value.accepts (value.firstHit leading grids count).exponent
        (value.firstHit leading grids count).digits = true ∧
      (value.firstHit leading grids count).digits ≠ 0 := by
  induction grids generalizing count with
  | zero =>
      obtain ⟨more, impossible, _⟩ := hit
      omega
  | succ grids induction =>
      rw [Binary.firstHit]
      cases found : value.onGrid? (leading - count + 1) with
      | some digits => exact on_grid_sound found
      | none =>
          apply induction (count + 1)
          obtain ⟨more, bounded, isHit⟩ := hit
          cases more with
          | zero =>
              rw [Nat.add_zero, found] at isHit
              simp at isHit
          | succ more =>
              refine ⟨more, by omega, ?_⟩
              rwa [show count + 1 + more = count + (more + 1) by omega]

/-- With eighteen digits the distance to the multiple below is less than the least gap. -/
theorem eighteen_digits_hit (canonical : value.Canonical) :
    (value.onGrid? (value.ratio.leadingExponent - (18 : ℕ) + 1)).isSome = true := by
  have step := two_zpow_pos value.exponent
  have whole : (1 : ℚ) ≤ value.mantissa := by exact_mod_cast canonical.positive
  have bounded : (value.mantissa : ℚ) < 2 ^ 53 := by exact_mod_cast canonical.bounded
  have denPositive := binary_ratio_den value
  have ratioValue := binary_ratio_value value
  have numPositive : 0 < value.ratio.num := by
    apply Nat.pos_of_ne_zero
    intro zero
    rw [Ratio.value, zero, Nat.cast_zero, zero_div] at ratioValue
    exact (mul_pos (by linarith) step).ne ratioValue
  have leading := leading_exponent_le numPositive denPositive
  generalize unitIs : value.ratio.leadingExponent - (18 : ℕ) + 1 = unit
  have unitValue : (10 : ℚ) ^ unit * 10 ^ 17 ≤ value.mantissa * 2 ^ value.exponent := by
    rw [← ratioValue, ← zpow_natCast, ← zpow_add₀ (by norm_num)]
    refine (zpow_le_zpow_right₀ (by norm_num) ?_).trans leading
    push_cast at unitIs ⊢
    omega
  have ten : (0 : ℚ) < 10 ^ unit := zpow_pos (by norm_num) _
  have shiftedDen := ratio_shift_den denPositive (-unit)
  have shiftedValue := ratio_shift_value value.ratio (-unit)
  have floor := ratio_floor shiftedDen
  rw [shiftedValue, ratioValue, zpow_neg, ← div_eq_mul_inv, div_lt_iff₀ ten,
    le_div_iff₀ ten] at floor
  generalize lowIs :
    (value.ratio.shift (-unit)).num / (value.ratio.shift (-unit)).den = low at floor
  obtain ⟨atMost, close⟩ := floor
  have gap := (gap_below_pos value).1
  have near : (value.mantissa - value.gapBelow) * 2 ^ value.exponent < low * 10 ^ unit := by
    nlinarith
  have inside : value.Around (low * 10 ^ unit) := by
    refine ⟨near.le, by nlinarith, fun _ => ⟨near, by nlinarith⟩⟩
  apply on_grid_of_low lowIs ((accepts_iff_around value unit low).mpr inside)
  rintro rfl
  rw [Nat.cast_zero] at close
  nlinarith

/-- The digits of a double round to it. -/
theorem shortest_around (canonical : value.Canonical) :
    value.shortest.digits ≠ 0 ∧
      value.Around (value.shortest.digits * 10 ^ value.shortest.exponent) := by
  obtain ⟨accepted, nonzero⟩ := @first_hit_sound value value.ratio.leadingExponent 18 1
    ⟨17, by decide, eighteen_digits_hit canonical⟩
  exact ⟨nonzero, (accepts_iff_around value _ _).mp accepted⟩

end

end PriceBoard.Decimal
