import Mathlib.Algebra.Order.Field.Power
import Mathlib.Data.Rat.Floor
import Mathlib.Tactic.Linarith
import PriceBoard.Decimal.Shortest

/-!
# Rounding to a double

A positive double is surrounded by an interval of numbers that round to it. The rounding of the
floating-point model starts from a truncated mantissa with two bits that say what was cut off; here it
is shown that every number in the interval around a double rounds to that double.
-/
namespace PriceBoard.Decimal

open Float.Model Float.Model.UnpackedFloat

/-! ### Truncated mantissas -/

/-- Where a number lies from its whole part, by the two residual bits. -/
def Describes (truncated : ExtendedMantissa) (point : ℚ) : Prop :=
  match truncated.roundBit, truncated.stickyBit with
  | false, false => point = truncated.mantissa
  | false, true => truncated.mantissa < point ∧ point < truncated.mantissa + 1 / 2
  | true, false => point = truncated.mantissa + 1 / 2
  | true, true => truncated.mantissa + 1 / 2 < point ∧ point < truncated.mantissa + 1

theorem describes_shift_one {truncated : ExtendedMantissa} {point : ℚ}
    (described : Describes truncated point) : Describes truncated.shiftRightOne (point / 2) := by
  obtain ⟨mantissa, round, sticky⟩ := truncated
  obtain ⟨half, rfl | rfl⟩ : ∃ half, mantissa = 2 * half ∨ mantissa = 2 * half + 1 :=
    ⟨mantissa / 2, by omega⟩
  · have quotient : 2 * half / 2 = half := by omega
    have remainder : (2 * half % 2 != 0) = false := by simp
    simp only [Describes, ExtendedMantissa.shiftRightOne, quotient, remainder] at described ⊢
    cases round <;> cases sticky <;> push_cast at described <;> simp only [Bool.or_true, Bool.or_false] <;>
      grind
  · have quotient : (2 * half + 1) / 2 = half := by omega
    have remainder : ((2 * half + 1) % 2 != 0) = true := by simp
    simp only [Describes, ExtendedMantissa.shiftRightOne, quotient, remainder] at described ⊢
    cases round <;> cases sticky <;> push_cast at described <;> simp only [Bool.or_true, Bool.or_false] <;>
      grind

theorem describes_shift {truncated : ExtendedMantissa} {point : ℚ}
    (described : Describes truncated point) (count : ℕ) :
    Describes (truncated >>> count) (point / 2 ^ count) := by
  change Describes (count.repeat ExtendedMantissa.shiftRightOne truncated) _
  induction count with
  | zero => simpa [Nat.repeat] using described
  | succ count induction =>
      have halved := describes_shift_one induction
      rwa [div_div, ← pow_succ] at halved

theorem describes_whole_part {truncated : ExtendedMantissa} {point : ℚ}
    (described : Describes truncated point) :
    (truncated.mantissa : ℚ) ≤ point ∧ point < truncated.mantissa + 1 := by
  obtain ⟨mantissa, round, sticky⟩ := truncated
  simp only [Describes] at described
  cases round <;> cases sticky <;> simp only at described <;> constructor <;> linarith

/-- The number is rounded to the whole number; a tie goes to an even one. -/
def RoundsTo (point : ℚ) (whole : ℕ) : Prop :=
  (whole : ℚ) - 1 / 2 ≤ point ∧ point ≤ whole + 1 / 2 ∧
    (whole % 2 = 1 → (whole : ℚ) - 1 / 2 < point ∧ point < whole + 1 / 2)

theorem rounded_mantissa_eq {truncated : ExtendedMantissa} {point : ℚ} {whole : ℕ}
    (described : Describes truncated point) (rounds : RoundsTo point whole) :
    truncated.roundedMantissa = whole := by
  obtain ⟨mantissa, round, sticky⟩ := truncated
  obtain ⟨low, high, strict⟩ := rounds
  simp only [Describes] at described
  simp only [ExtendedMantissa.roundedMantissa]
  cases round <;> cases sticky <;>
    simp only [ExtendedMantissa.accuracy, Accuracy.roundToNearestEven] at described ⊢
  · have above : (mantissa : ℚ) < whole + 1 := by linarith
    have below : (whole : ℚ) < mantissa + 1 := by linarith
    norm_cast at above below
    omega
  · have above : (mantissa : ℚ) < whole + 1 := by linarith
    have below : (whole : ℚ) < mantissa + 1 := by linarith
    norm_cast at above below
    omega
  · -- a tie: the whole number is one of the two neighbours, and the even one
    have above : (mantissa : ℚ) ≤ whole := by linarith
    have below : (whole : ℚ) ≤ mantissa + 1 := by linarith
    norm_cast at above below
    have notOdd : whole % 2 = 0 := by
      by_contra odd
      obtain ⟨lower, upper⟩ := strict (by omega)
      rcases Nat.lt_or_ge mantissa whole with greater | smaller
      · have next : whole = mantissa + 1 := by omega
        subst next
        push_cast at lower
        linarith
      · have same : whole = mantissa := by omega
        subst same
        linarith
    omega
  · have above : (mantissa : ℚ) < whole := by linarith
    have below : (whole : ℚ) < mantissa + 2 := by linarith
    norm_cast at above below
    omega

/-! ### Doubles and their intervals -/

/-- The mantissa and exponent that a positive double has among all pairs for the same number. -/
structure Binary.Canonical (value : Binary) : Prop where
  positive : 0 < value.mantissa
  bounded : value.mantissa < 2 ^ 53
  least : -1074 ≤ value.exponent
  greatest : value.exponent ≤ 971
  subnormal : value.mantissa < 2 ^ 52 → value.exponent = -1074
  power : value.atPower = true ↔ value.mantissa = 2 ^ 52 ∧ -1074 < value.exponent

/-- The distance down to the middle between the double and the one below it, in steps. -/
def Binary.gapBelow (value : Binary) : ℚ := if value.atPower then 1 / 4 else 1 / 2

/-- The number rounds to the double: it lies between the middles to the neighbouring doubles, which
are included for an even mantissa. -/
def Binary.Around (value : Binary) (point : ℚ) : Prop :=
  (value.mantissa - value.gapBelow) * 2 ^ value.exponent ≤ point ∧
    point ≤ (value.mantissa + 1 / 2) * 2 ^ value.exponent ∧
    (value.mantissa % 2 = 1 → (value.mantissa - value.gapBelow) * 2 ^ value.exponent < point ∧
      point < (value.mantissa + 1 / 2) * 2 ^ value.exponent)

theorem two_zpow_pos (exponent : ℤ) : (0 : ℚ) < 2 ^ exponent := zpow_pos (by norm_num) _

theorem gap_below_pos (value : Binary) : 1 / 4 ≤ value.gapBelow ∧ value.gapBelow ≤ 1 / 2 := by
  unfold Binary.gapBelow
  split_ifs <;> norm_num

theorem target_exponent_eq (total : ℤ) :
    Format.binary64.targetExponent total = max (total - 53) (-1074) := rfl

theorem lt_two_zpow_total (mantissa : ℕ) (exponent : ℤ) :
    ((mantissa : ℚ) + 1) * 2 ^ exponent ≤ 2 ^ totalExponent mantissa exponent := by
  have bounded : mantissa + 1 ≤ 2 ^ (mantissa.log2 + 1) := Nat.lt_log2_self
  have cast : ((mantissa : ℚ) + 1) ≤ 2 ^ ((mantissa.log2 : ℤ) + 1) := by
    exact_mod_cast bounded
  have scaled := mul_le_mul_of_nonneg_right cast (two_zpow_pos exponent).le
  rwa [← zpow_add₀ (by norm_num)] at scaled

theorem two_zpow_total_le {mantissa : ℕ} (positive : mantissa ≠ 0) (exponent : ℤ) :
    (2 : ℚ) ^ (totalExponent mantissa exponent - 1) ≤ mantissa * 2 ^ exponent := by
  have bounded : 2 ^ mantissa.log2 ≤ mantissa := Nat.log2_self_le positive
  have cast : (2 : ℚ) ^ (mantissa.log2 : ℤ) ≤ mantissa := by exact_mod_cast bounded
  have scaled := mul_le_mul_of_nonneg_right cast (two_zpow_pos exponent).le
  rw [← zpow_add₀ (by norm_num)] at scaled
  have sameExponent : totalExponent mantissa exponent - 1 = mantissa.log2 + exponent := by
    unfold totalExponent
    omega
  rwa [sameExponent]

/-- A canonical mantissa is already at its target exponent. -/
theorem shift_canonical {value : Binary} (canonical : value.Canonical) :
    shiftToTargetExponent Format.binary64 value.mantissa value.exponent .exact =
      (⟨value.mantissa, false, false⟩, value.exponent) := by
  have target : Format.binary64.targetExponent
      (totalExponent value.mantissa value.exponent) = value.exponent := by
    rw [target_exponent_eq, totalExponent]
    have upper : value.mantissa.log2 < 53 :=
      (Nat.log2_lt canonical.positive.ne').mpr canonical.bounded
    rcases Nat.lt_or_ge value.mantissa (2 ^ 52) with small | large
    · rw [canonical.subnormal small]
      omega
    · have lower : 52 ≤ value.mantissa.log2 := (Nat.le_log2 canonical.positive.ne').mpr large
      have least := canonical.least
      omega
  simp only [shiftToTargetExponent, shiftToExponent, target, sub_self, Int.toNat_zero,
    Nat.cast_zero, add_zero, ExtendedMantissa.ofMantissaAndAccuracy]
  rfl

/-- A mantissa that rounding carried to the next power of two is halved once. -/
theorem shift_carried {exponent : ℤ} (least : -1074 < exponent) :
    shiftToTargetExponent Format.binary64 (2 ^ 53) (exponent - 1) .exact =
      (⟨2 ^ 52, false, false⟩, exponent) := by
  have logarithm : Nat.log2 (2 ^ 53) = 53 := Nat.log2_two_pow
  have target : Format.binary64.targetExponent (totalExponent (2 ^ 53) (exponent - 1)) =
      exponent := by
    rw [target_exponent_eq, totalExponent, logarithm]
    omega
  have once : (exponent - (exponent - 1)).toNat = 1 := by omega
  simp only [shiftToTargetExponent, shiftToExponent, target, once,
    ExtendedMantissa.ofMantissaAndAccuracy]
  refine Prod.ext ?_ (by simp)
  rfl

/-! ### Rounding a number of the interval -/

section

variable {value : Binary} {point : ℚ}

theorem around_lt (canonical : value.Canonical) (around : value.Around point) :
    point < 2 ^ (value.exponent + 53) := by
  obtain ⟨_, high, _⟩ := around
  have whole : (value.mantissa : ℚ) + 1 ≤ 2 ^ 53 := by exact_mod_cast canonical.bounded
  have step := two_zpow_pos value.exponent
  rw [zpow_add₀ (by norm_num)]
  have power : (2 : ℚ) ^ (53 : ℤ) = 2 ^ 53 := by norm_num
  rw [power]
  nlinarith

/-- Only below a power of two does the interval reach into numbers with a smaller exponent, and
there by half a step of theirs. -/
theorem around_ge (normal : 2 ^ 52 ≤ value.mantissa) (around : value.Around point) :
    2 ^ (value.exponent + 52) ≤ point ∨
      value.mantissa = 2 ^ 52 ∧ point < 2 ^ (value.exponent + 52) ∧
        2 ^ (value.exponent + 51) ≤ point := by
  obtain ⟨low, _, _⟩ := around
  have step := two_zpow_pos value.exponent
  have upper : (2 : ℚ) ^ (value.exponent + 52) = 2 ^ value.exponent * 2 ^ 52 := by
    rw [zpow_add₀ (by norm_num)]
    norm_num
  have lower : (2 : ℚ) ^ (value.exponent + 51) = 2 ^ value.exponent * 2 ^ 51 := by
    rw [zpow_add₀ (by norm_num)]
    norm_num
  rw [upper, lower]
  rcases Nat.eq_or_lt_of_le normal with power | larger
  · rcases le_or_gt (2 ^ value.exponent * 2 ^ 52) point with above | below
    · exact .inl above
    · refine .inr ⟨power.symm, below, ?_⟩
      have gap := (gap_below_pos value).2
      rw [← power] at low
      push_cast at low
      nlinarith
  · have gap := (gap_below_pos value).2
    have whole : (2 : ℚ) ^ 52 + 1 ≤ value.mantissa := by exact_mod_cast larger
    exact .inl (by nlinarith)

theorem around_rounds_to (around : value.Around point) :
    RoundsTo (point / 2 ^ value.exponent) value.mantissa := by
  obtain ⟨low, high, strict⟩ := around
  have step := two_zpow_pos value.exponent
  have gap := (gap_below_pos value).2
  refine ⟨?_, ?_, fun odd => ⟨?_, ?_⟩⟩
  · rw [le_div_iff₀ step]
    nlinarith
  · rwa [div_le_iff₀ step]
  · rw [lt_div_iff₀ step]
    nlinarith [(strict odd).1]
  · rw [div_lt_iff₀ step]
    exact (strict odd).2

/-- Below a power of two the number rounds up to the power in the smaller steps. -/
theorem around_rounds_to_carry (canonical : value.Canonical) (around : value.Around point)
    (least : -1074 < value.exponent) (power : value.mantissa = 2 ^ 52)
    (below : point < 2 ^ (value.exponent + 52)) :
    RoundsTo (point / 2 ^ (value.exponent - 1)) (2 ^ 53) := by
  obtain ⟨low, _, _⟩ := around
  have atPower := canonical.power.mpr ⟨power, least⟩
  have step := two_zpow_pos (value.exponent - 1)
  have double : (2 : ℚ) ^ value.exponent = 2 * 2 ^ (value.exponent - 1) := by
    rw [← zpow_one_add₀ (by norm_num)]
    congr 1
    omega
  have top : (2 : ℚ) ^ (value.exponent + 52) = 2 ^ 53 * 2 ^ (value.exponent - 1) := by
    rw [zpow_add₀ (by norm_num), double]
    norm_num
    ring
  rw [Binary.gapBelow, if_pos atPower, power, double] at low
  push_cast at low
  refine ⟨?_, ?_, fun odd => absurd odd (by decide)⟩
  · rw [le_div_iff₀ step]
    push_cast
    linarith
  · rw [div_le_iff₀ step]
    rw [top] at below
    push_cast
    linarith

/-- The exponent to which a number of the interval is shifted, from its whole part. -/
theorem target_of_around {mantissa : ℕ} {exponent : ℤ} (canonical : value.Canonical)
    (around : value.Around point) (low : (mantissa : ℚ) * 2 ^ exponent ≤ point)
    (high : point < (mantissa + 1) * 2 ^ exponent)
    (enough : exponent ≤ Format.binary64.targetExponent (totalExponent mantissa exponent)) :
    Format.binary64.targetExponent (totalExponent mantissa exponent) = value.exponent ∨
      Format.binary64.targetExponent (totalExponent mantissa exponent) = value.exponent - 1 ∧
        -1074 < value.exponent ∧ value.mantissa = 2 ^ 52 ∧ point < 2 ^ (value.exponent + 52) := by
  have powerLt {left right : ℤ} (ordered : (2 : ℚ) ^ left < 2 ^ right) : left < right :=
    (zpow_lt_zpow_iff_right₀ (by norm_num)).mp ordered
  have least := canonical.least
  rw [target_exponent_eq] at enough ⊢
  have upper : totalExponent mantissa exponent - 53 ≤ value.exponent := by
    rcases eq_or_ne mantissa 0 with rfl | nonzero
    · have total : totalExponent 0 exponent = exponent + 1 := by
        simp only [totalExponent, Nat.log2_zero]
        omega
      rw [total] at enough ⊢
      omega
    · have bound := powerLt (((two_zpow_total_le nonzero exponent).trans low).trans_lt
        (around_lt canonical around))
      omega
  rcases Nat.lt_or_ge value.mantissa (2 ^ 52) with small | normal
  · have exponentLeast := canonical.subnormal small
    exact .inl (by omega)
  · rcases eq_or_lt_of_le least with same | greater
    · exact .inl (by omega)
    · have total := high.trans_le (lt_two_zpow_total mantissa exponent)
      rcases around_ge normal around with above | ⟨power, below, near⟩
      · have bound := powerLt (above.trans_lt total)
        exact .inl (by omega)
      · have bound := powerLt (near.trans_lt total)
        rcases eq_or_lt_of_le upper with same | lower
        · exact .inl (by omega)
        · exact .inr ⟨by omega, greater, power, below⟩

/-- What a first shift leaves is rounded, and a second one makes room for a carry. -/
theorem round_of_shifts {mantissa rounded : ℕ} {exponent middle final : ℤ} {accuracy : Accuracy}
    {shifted : ExtendedMantissa} (sign : Sign)
    (first : shiftToTargetExponent Format.binary64 mantissa exponent accuracy = (shifted, middle))
    (second : shiftToTargetExponent Format.binary64 shifted.roundedMantissa middle .exact =
      (⟨rounded, false, false⟩, final)) (positive : 0 < rounded) :
    roundWithAccuracy Format.binary64 sign mantissa exponent accuracy =
      .finite sign rounded final positive := by
  unfold roundWithAccuracy
  rw [first]
  dsimp only
  rw [second]
  exact dif_neg positive.ne'

/-- Every number around a double is rounded to it, if the truncated mantissa has enough digits. -/
theorem round_around {mantissa : ℕ} {exponent : ℤ} {accuracy : Accuracy} (sign : Sign)
    (canonical : value.Canonical) (around : value.Around point)
    (described : Describes (.ofMantissaAndAccuracy mantissa accuracy) (point / 2 ^ exponent))
    (enough : exponent ≤ Format.binary64.targetExponent (totalExponent mantissa exponent)) :
    roundWithAccuracy Format.binary64 sign mantissa exponent accuracy =
      .finite sign value.mantissa value.exponent canonical.positive := by
  have step := two_zpow_pos exponent
  have whole := describes_whole_part described
  have sameMantissa :
      (ExtendedMantissa.ofMantissaAndAccuracy mantissa accuracy).mantissa = mantissa := by
    rcases accuracy with _ | (_ | _ | _) <;> rfl
  rw [sameMantissa, le_div_iff₀ step, div_lt_iff₀ step] at whole
  have target := target_of_around canonical around whole.1 whole.2 enough
  generalize goal : Format.binary64.targetExponent (totalExponent mantissa exponent) = final
    at enough target
  have shifted := describes_shift described (final - exponent).toNat
  have scaled : point / 2 ^ exponent / 2 ^ (final - exponent).toNat = point / 2 ^ final := by
    rw [div_div, ← zpow_natCast, ← zpow_add₀ (by norm_num), Int.toNat_of_nonneg (by omega)]
    congr 2
    omega
  rw [scaled] at shifted
  have first : shiftToTargetExponent Format.binary64 mantissa exponent accuracy =
      (ExtendedMantissa.ofMantissaAndAccuracy mantissa accuracy >>> (final - exponent).toNat,
        final) := by
    simp only [shiftToTargetExponent, shiftToExponent, goal]
    refine Prod.ext rfl ?_
    simp only
    omega
  rcases target with same | ⟨lower, least, power, below⟩
  · rw [same] at shifted first
    have rounded := rounded_mantissa_eq shifted (around_rounds_to around)
    apply round_of_shifts sign first
    rw [rounded]
    exact shift_canonical canonical
  · rw [lower] at shifted first
    have rounded := rounded_mantissa_eq shifted
      (around_rounds_to_carry canonical around least power below)
    apply round_of_shifts sign first
    rw [rounded, shift_carried least, ← power]

end

end PriceBoard.Decimal
