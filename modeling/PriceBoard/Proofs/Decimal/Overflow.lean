import PriceBoard.Proofs.Decimal.Nearest

/-!
# Whole numbers beyond the doubles

Half a step above the largest double lies the least whole number that no double is near to. Every whole
number below it lies in the interval around some double and is read as that double; it and every number
above it are rounded to an exponent that no double has, and are read as infinite.
-/
namespace PriceBoard.Decimal

open Float.Model Float.Model.UnpackedFloat

/-- Half a step above the largest double: `2 ^ 1024 - 2 ^ 970`. -/
def doubleLimit : ℕ := (2 ^ 54 - 1) * 2 ^ 970

theorem double_limit_eq : (doubleLimit : ℚ) = (2 ^ 53 - 1 / 2) * 2 ^ (971 : ℤ) := by
  have steps : ((2 ^ 54 - 1 : ℕ) : ℚ) = (2 ^ 53 - 1 / 2) * 2 := by norm_num
  have half : (2 : ℚ) ^ (971 : ℤ) = 2 * 2 ^ 970 := by
    rw [show (971 : ℤ) = ((970 + 1 : ℕ) : ℤ) from rfl, zpow_natCast, pow_succ']
  rw [doubleLimit, Nat.cast_mul, Nat.cast_pow, Nat.cast_ofNat, steps, half, mul_assoc]

/-! ### Rounding to whole steps -/

theorem exists_rounds_to {point : ℚ} (nonnegative : 0 ≤ point) : ∃ whole, RoundsTo point whole := by
  obtain ⟨low, floor⟩ := Int.eq_ofNat_of_zero_le (Int.floor_nonneg.mpr nonnegative)
  have atLeast : (low : ℚ) ≤ point := by
    have bound := Int.floor_le point
    rwa [floor] at bound
  have below : point < low + 1 := by
    have bound := Int.lt_floor_add_one point
    rwa [floor] at bound
  rcases lt_trichotomy point (low + 1 / 2) with less | tie | more
  · exact ⟨low, by linarith, by linarith, fun _ => ⟨by linarith, less⟩⟩
  · rcases Nat.mod_two_eq_zero_or_one low with even | odd
    · exact ⟨low, by linarith, by linarith, fun isOdd => by omega⟩
    · exact ⟨low + 1, by push_cast; linarith, by push_cast; linarith, fun isOdd => by omega⟩
  · refine ⟨low + 1, ?_, ?_, fun _ => ⟨?_, ?_⟩⟩ <;> push_cast <;> linarith

/-- A number with a leading bit in its place rounds to a mantissa, or to the next power of two. -/
theorem rounded_in_place {point : ℚ} {whole : ℕ} (low : 2 ^ 52 ≤ point) (high : point < 2 ^ 53)
    (rounds : RoundsTo point whole) : 2 ^ 52 ≤ whole ∧ whole ≤ 2 ^ 53 := by
  obtain ⟨under, above, _⟩ := rounds
  have more : (2 : ℚ) ^ 52 < whole + 1 := by linarith
  have less : (whole : ℚ) < 2 ^ 53 + 1 := by linarith
  norm_cast at more less
  omega

section

variable {point : ℚ} {places : ℤ} {whole : ℕ}

/-- The double that a number rounds to in steps of its own exponent. -/
theorem around_of_rounds_to (low : 2 ^ 52 ≤ point / 2 ^ places)
    (rounds : RoundsTo (point / 2 ^ places) whole) :
    (Binary.mk whole places (whole == 2 ^ 52 && decide (-1074 < places))).Around point := by
  obtain ⟨under, above, strict⟩ := rounds
  have step := two_zpow_pos places
  rw [le_div_iff₀ step] at low under
  rw [div_le_iff₀ step] at above
  have odd (isOdd : whole % 2 = 1) : ((whole : ℚ) - 1 / 2) * 2 ^ places < point ∧
      point < (whole + 1 / 2) * 2 ^ places := by
    obtain ⟨greater, less⟩ := strict isOdd
    rw [lt_div_iff₀ step] at greater
    rw [div_lt_iff₀ step] at less
    exact ⟨greater, less⟩
  unfold Binary.Around Binary.gapBelow
  simp only [Bool.and_eq_true, beq_iff_eq, decide_eq_true_iff]
  split_ifs with power
  · obtain ⟨rfl, _⟩ := power
    push_cast at low above ⊢
    exact ⟨by linarith, above, fun isOdd => absurd isOdd (by decide)⟩
  · exact ⟨under, above, odd⟩

/-- A number that rounds up to a power of two is around the power. -/
theorem around_of_carry (high : point / 2 ^ places < 2 ^ 53)
    (rounds : RoundsTo (point / 2 ^ places) (2 ^ 53)) :
    (Binary.mk (2 ^ 52) (places + 1) true).Around point := by
  obtain ⟨under, _, _⟩ := rounds
  have step := two_zpow_pos places
  have double : (2 : ℚ) ^ (places + 1) = 2 * 2 ^ places := by
    rw [zpow_add₀ (by norm_num), zpow_one, mul_comm]
  rw [le_div_iff₀ step] at under
  rw [div_lt_iff₀ step] at high
  unfold Binary.Around Binary.gapBelow
  simp only [if_true, double]
  push_cast at under ⊢
  exact ⟨by linarith, by linarith, fun odd => absurd odd (by decide)⟩

end

/-- A whole number of more than 53 bits in steps that leave 53 of them. -/
theorem leading_steps {whole : ℕ} (large : 2 ^ 53 ≤ whole) :
    ∃ places : ℕ, 0 < places ∧ (2 : ℚ) ^ 52 ≤ whole / 2 ^ (places : ℤ) ∧
      (whole : ℚ) / 2 ^ (places : ℤ) < 2 ^ 53 := by
  have nonzero : whole ≠ 0 := by omega
  have logarithm : 53 ≤ whole.log2 := (Nat.le_log2 nonzero).mpr large
  have lower : 2 ^ whole.log2 ≤ whole := Nat.log2_self_le nonzero
  have upper : whole < 2 ^ (whole.log2 + 1) := Nat.lt_log2_self
  have lowerSplit : 2 ^ 52 * 2 ^ (whole.log2 - 52) = 2 ^ whole.log2 := by
    rw [← pow_add]
    congr 1
    omega
  have upperSplit : 2 ^ 53 * 2 ^ (whole.log2 - 52) = 2 ^ (whole.log2 + 1) := by
    rw [← pow_add]
    congr 1
    omega
  rw [← lowerSplit] at lower
  rw [← upperSplit] at upper
  have step : (0 : ℚ) < 2 ^ (whole.log2 - 52) := by positivity
  refine ⟨whole.log2 - 52, by omega, ?_, ?_⟩
  · rw [zpow_natCast, le_div_iff₀ step]
    exact_mod_cast lower
  · rw [zpow_natCast, div_lt_iff₀ step]
    exact_mod_cast upper

/-- A mantissa that fills its place makes a double, in steps that a double can have. -/
theorem canonical_of_normal {mantissa : ℕ} {exponent : ℤ} (normal : 2 ^ 52 ≤ mantissa)
    (bounded : mantissa < 2 ^ 53) (least : -1074 ≤ exponent) (greatest : exponent ≤ 971) :
    (Binary.mk mantissa exponent (mantissa == 2 ^ 52 && decide (-1074 < exponent))).Canonical := by
  refine ⟨?_, bounded, least, greatest, ?_, ?_⟩
  · simp only
    omega
  · exact fun small => absurd normal (not_le_of_gt small)
  · simp only [Bool.and_eq_true, beq_iff_eq, decide_eq_true_iff]

/-! ### Below the limit -/

section

variable {point : ℚ} {places : ℤ}

/-- Below the limit, the steps of a number are those of some double. -/
theorem place_below_limit (below : point < doubleLimit) (low : 2 ^ 52 ≤ point / 2 ^ places) :
    places ≤ 971 := by
  by_contra beyond
  rw [double_limit_eq] at below
  rw [le_div_iff₀ (two_zpow_pos places)] at low
  have far : (2 : ℚ) ^ (971 + 1 : ℤ) ≤ 2 ^ places :=
    zpow_le_zpow_right₀ (by norm_num) (by omega)
  rw [zpow_add₀ (by norm_num), zpow_one] at far
  have top := two_zpow_pos 971
  generalize (2 : ℚ) ^ (971 : ℤ) = largest at *
  linarith only [low, below, far, top]

/-- Below the limit, a number that rounds up to a power of two rounds up to a double. -/
theorem carry_below_limit (below : point < doubleLimit)
    (rounds : RoundsTo (point / 2 ^ places) (2 ^ 53)) : places + 1 ≤ 971 := by
  by_contra beyond
  have under := rounds.1
  rw [double_limit_eq] at below
  rw [le_div_iff₀ (two_zpow_pos places)] at under
  have far : (2 : ℚ) ^ (971 : ℤ) ≤ 2 ^ places := zpow_le_zpow_right₀ (by norm_num) (by omega)
  push_cast at under
  linarith only [under, below, far]

end

theorem exists_around_whole {whole : ℕ} (positive : 0 < whole) (below : whole < doubleLimit) :
    ∃ value : Binary, value.Canonical ∧ value.Around whole := by
  rcases Nat.lt_or_ge whole (2 ^ 53) with small | large
  · refine ⟨Binary.ofWhole whole, of_whole_canonical positive small, ?_⟩
    have around := @around_self (Binary.ofWhole whole)
    rwa [of_whole_value positive small] at around
  · obtain ⟨places, nonzero, low, high⟩ := leading_steps large
    obtain ⟨steps, rounds⟩ := @exists_rounds_to ((whole : ℚ) / 2 ^ (places : ℤ)) (by positivity)
    obtain ⟨normal, bounded⟩ := rounded_in_place low high rounds
    have limit : (whole : ℚ) < doubleLimit := by exact_mod_cast below
    rcases Nat.eq_or_lt_of_le bounded with carried | inPlace
    · subst carried
      have canonical := @canonical_of_normal (2 ^ 52) (places + 1) le_rfl
        (Nat.pow_lt_pow_right (by decide) (by decide)) (by omega) (carry_below_limit limit rounds)
      rw [decide_eq_true (by omega), Bool.and_true, beq_self_eq_true] at canonical
      exact ⟨_, canonical, around_of_carry high rounds⟩
    · exact ⟨_, canonical_of_normal normal inPlace (by omega) (place_below_limit limit low),
        around_of_rounds_to low rounds⟩

/-! ### From the limit on -/

/-- A mantissa with its leading bit in place stays as it is. -/
theorem shift_in_place {mantissa : ℕ} {exponent : ℤ} (normal : 2 ^ 52 ≤ mantissa)
    (bounded : mantissa < 2 ^ 53) (least : -1074 ≤ exponent) :
    shiftToTargetExponent Format.binary64 mantissa exponent .exact =
      (⟨mantissa, false, false⟩, exponent) := by
  have nonzero : mantissa ≠ 0 := by omega
  have lower : 52 ≤ mantissa.log2 := (Nat.le_log2 nonzero).mpr normal
  have upper : mantissa.log2 < 53 := (Nat.log2_lt nonzero).mpr bounded
  have target : Format.binary64.targetExponent (totalExponent mantissa exponent) = exponent := by
    rw [target_exponent_eq, totalExponent]
    omega
  simp only [shiftToTargetExponent, shiftToExponent, target, sub_self, Int.toNat_zero,
    Nat.cast_zero, add_zero, ExtendedMantissa.ofMantissaAndAccuracy]
  rfl

/-- A mantissa of more than 53 bits is cut to 53 of them. -/
theorem shift_large {mantissa : ℕ} {exponent : ℤ} (large : 2 ^ 53 ≤ mantissa)
    (least : -1074 ≤ exponent) :
    ∃ (target : ℤ) (truncated : ExtendedMantissa), -1074 ≤ target ∧
      shiftToTargetExponent Format.binary64 mantissa exponent .exact = (truncated, target) ∧
      Describes truncated (mantissa * 2 ^ exponent / 2 ^ target) ∧
      2 ^ 52 ≤ (mantissa : ℚ) * 2 ^ exponent / 2 ^ target ∧
      (mantissa : ℚ) * 2 ^ exponent / 2 ^ target < 2 ^ 53 := by
  have nonzero : mantissa ≠ 0 := by omega
  have logarithm : 53 ≤ mantissa.log2 := (Nat.le_log2 nonzero).mpr large
  generalize targetIs : totalExponent mantissa exponent - 53 = target
  have room : exponent ≤ target := by
    rw [← targetIs, totalExponent]
    omega
  have goal : Format.binary64.targetExponent (totalExponent mantissa exponent) = target := by
    rw [target_exponent_eq, targetIs]
    omega
  have step := two_zpow_pos target
  have described : Describes (.ofMantissaAndAccuracy mantissa .exact)
      ((mantissa : ℚ) * 2 ^ exponent / 2 ^ exponent) := by
    rw [mul_div_assoc, div_self (two_zpow_pos _).ne', mul_one]
    rfl
  have shifted := describes_shift described (target - exponent).toNat
  have scaled : (mantissa : ℚ) * 2 ^ exponent / 2 ^ exponent / 2 ^ (target - exponent).toNat =
      mantissa * 2 ^ exponent / 2 ^ target := by
    rw [div_div, ← zpow_natCast, ← zpow_add₀ (by norm_num), Int.toNat_of_nonneg (by omega)]
    congr 2
    omega
  rw [scaled] at shifted
  refine ⟨target, _, by omega, ?_, shifted, ?_, ?_⟩
  · simp only [shiftToTargetExponent, shiftToExponent, goal]
    refine Prod.ext rfl ?_
    simp only
    omega
  · have bound := two_zpow_total_le nonzero exponent
    rw [show totalExponent mantissa exponent - 1 = 52 + target by omega,
      zpow_add₀ (by norm_num)] at bound
    rw [le_div_iff₀ step]
    exact_mod_cast bound
  · have bound := lt_two_zpow_total mantissa exponent
    rw [show totalExponent mantissa exponent = 53 + target by omega, zpow_add₀ (by norm_num)]
      at bound
    rw [div_lt_iff₀ step]
    have above : (mantissa : ℚ) * 2 ^ exponent < 2 ^ (53 : ℤ) * 2 ^ target := by
      linarith [two_zpow_pos exponent]
    exact_mod_cast above

/-- In steps of the largest doubles, only a number that is rounded up to the next power of two is as
large as the limit. -/
theorem place_of_limit {point : ℚ} {target : ℤ} {steps : ℕ} (beyond : (doubleLimit : ℚ) ≤ point)
    (high : point / 2 ^ target < 2 ^ 53) (rounds : RoundsTo (point / 2 ^ target) steps) :
    971 ≤ target ∧ (steps < 2 ^ 53 → 972 ≤ target) := by
  rw [double_limit_eq] at beyond
  have step := two_zpow_pos target
  have targetLarge : 971 ≤ target := by
    by_contra small
    rw [div_lt_iff₀ step] at high
    have near : (2 : ℚ) ^ (target + 1) ≤ 2 ^ (971 : ℤ) :=
      zpow_le_zpow_right₀ (by norm_num) (by omega)
    rw [zpow_add₀ (by norm_num), zpow_one] at near
    generalize (2 : ℚ) ^ (971 : ℤ) = largest at *
    linarith only [high, beyond, near, step]
  refine ⟨targetLarge, fun inPlace => ?_⟩
  by_contra notAbove
  have same : target = 971 := by omega
  obtain ⟨_, above, strict⟩ := rounds
  rw [same] at above strict step
  generalize (2 : ℚ) ^ (971 : ℤ) = largest at *
  rw [div_le_iff₀ step] at above
  have odd : steps % 2 = 1 := by
    by_contra even
    have less : steps + 2 ≤ 2 ^ 53 := by omega
    have cast : (steps : ℚ) + 2 ≤ 2 ^ 53 := by exact_mod_cast less
    nlinarith
  have strictly := (strict odd).2
  have most : (steps : ℚ) + 1 ≤ 2 ^ 53 := by exact_mod_cast inPlace
  rw [div_lt_iff₀ step] at strictly
  nlinarith

/-- Numbers from the limit on are rounded to an exponent above that of every double. -/
theorem round_beyond {mantissa : ℕ} {exponent : ℤ} (sign : Sign) (large : 2 ^ 53 ≤ mantissa)
    (least : -1074 ≤ exponent) (beyond : (doubleLimit : ℚ) ≤ mantissa * 2 ^ exponent) :
    ∃ final, ∃ finalExponent : ℤ, ∃ positive : 0 < final, 972 ≤ finalExponent ∧
      roundWithAccuracy Format.binary64 sign mantissa exponent .exact =
        .finite sign final finalExponent positive := by
  obtain ⟨target, truncated, inside, first, described, low, high⟩ := shift_large large least
  obtain ⟨steps, rounds⟩ := exists_rounds_to (le_trans (by norm_num) low)
  have rounded := rounded_mantissa_eq described rounds
  obtain ⟨normal, bounded⟩ := rounded_in_place low high rounds
  obtain ⟨targetLarge, targetAbove⟩ := place_of_limit beyond high rounds
  rcases Nat.eq_or_lt_of_le bounded with carried | inPlace
  · have second := shift_carried (by omega : -1074 < target + 1)
    rw [add_sub_cancel_right] at second
    refine ⟨2 ^ 52, target + 1, Nat.two_pow_pos 52, by omega, ?_⟩
    apply round_of_shifts sign first
    rw [rounded, carried, second]
  · have second := shift_in_place normal inPlace inside
    refine ⟨steps, target, by omega, targetAbove inPlace, ?_⟩
    apply round_of_shifts sign first
    rw [rounded, second]

/-- What has so large an exponent is packed as an infinity. -/
theorem pack_beyond (sign : Sign) {mantissa : ℕ} {exponent : ℤ} (positive : 0 < mantissa)
    (large : 972 ≤ exponent) :
    UnpackedFloat.pack Format.binary64 (.finite sign mantissa exponent positive) =
      packedInfinity Format.binary64 sign := by
  change (if 2 ^ 11 ≤ (exponent + (1023 : ℕ) + (52 : ℕ)).toNat + 1 then
    packedInfinity Format.binary64 sign else _) = _
  rw [if_pos (by omega)]

theorem of_whole_beyond {digits : ℕ} (beyond : doubleLimit ≤ digits) :
    (Float.ofScientific digits false 0).isInf = true := by
  have large : 2 ^ 53 ≤ digits := le_trans (by decide +kernel) beyond
  have positive : digits ≠ 0 := by omega
  have inRange : ¬(0 : ℤ) > 2 ^ Format.binary64.exponentBits := by decide
  have notTiny : ¬(0 : ℤ) < -((2 ^ Format.binary64.exponentBits : ℤ) + digits.log2) := by
    change ¬(0 : ℤ) < -(2048 + (digits.log2 : ℤ))
    omega
  have slow : ¬(digits < 2 ^ 53 ∧ 0 ≤ 22) := by omega
  have product : 2 ^ 53 ≤ digits <<< 53 * 10 ^ (0 : ℤ).toNat := by
    rw [Nat.shiftLeft_eq, Int.toNat_zero, pow_zero, mul_one]
    omega
  have value : ((digits <<< 53 * 10 ^ (0 : ℤ).toNat : ℕ) : ℚ) * 2 ^ (-((53 : ℕ) : ℤ) + 0) =
      digits := by
    rw [Nat.shiftLeft_eq]
    push_cast
    norm_num
    ring
  have limit : (doubleLimit : ℚ) ≤ digits := by exact_mod_cast beyond
  rw [← value] at limit
  obtain ⟨final, exponent, finalPositive, above, rounded⟩ :=
    round_beyond (.positive * .positive) product (by decide) limit
  have unpacked : UnpackedFloat.ofScientific Format.binary64 digits 0 =
      .finite (.positive * .positive) final exponent finalPositive := by
    rw [UnpackedFloat.ofScientific, dif_neg positive, if_neg inRange, if_neg notTiny, if_pos le_rfl]
    exact rounded
  unfold Float.ofScientific
  rw [dif_neg slow]
  change (UnpackedFloat.unpack Format.binary64 (UnpackedFloat.pack Format.binary64
    (UnpackedFloat.ofScientific Format.binary64 digits 0))).isInf = true
  rw [unpacked, pack_beyond _ finalPositive above]
  rfl

/-! ### Whole numbers as doubles -/

theorem nearest_whole_infinite_iff (whole : ℕ) :
    (nearest whole 0).isInf = true ↔ doubleLimit ≤ whole := by
  rcases Nat.eq_zero_or_pos whole with rfl | positive
  · exact iff_of_false (by decide) (by decide +kernel)
  · rcases Nat.lt_or_ge whole doubleLimit with below | beyond
    · obtain ⟨value, canonical, around⟩ := exists_around_whole positive below
      have scaled : value.Around (whole * 10 ^ (0 : ℤ)) := by rwa [zpow_zero, mul_one]
      rw [nearest_around canonical positive scaled]
      refine iff_of_false ?_ (not_le_of_gt below)
      change ¬(value.toFloat canonical).toModel.unpack.isInf = true
      rw [unpack_to_float]
      exact Bool.false_ne_true
    · refine iff_of_true ?_ beyond
      unfold nearest
      simp only
      rw [if_neg positive.ne']
      split_ifs with huge tiny
      · rfl
      · omega
      · rw [show whole * tenTo 0 = whole from Nat.mul_one whole]
        exact of_whole_beyond beyond

/-- A whole number stands for a double unless it lies half a step or more beyond the largest. -/
theorem of_integer_none_iff (value : ℤ) : ofInteger? value = none ↔ doubleLimit ≤ value.natAbs := by
  rw [← nearest_whole_infinite_iff, ofInteger?]
  split_ifs with infinite
  · exact iff_of_true rfl infinite
  · exact iff_of_false (by simp) infinite

end PriceBoard.Decimal
