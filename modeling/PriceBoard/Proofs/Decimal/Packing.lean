import PriceBoard.Proofs.Decimal.Rounding
import PriceBoard.Decimal.Layout

/-!
# The bits of a double

A double is determined by its unpacked form, and packing that form gives the double back. The positive
part of a finite double other than zero unpacks to the mantissa and exponent that its digits are
computed from.
-/
namespace PriceBoard.Decimal

open Float.Model Float.Model.UnpackedFloat

abbrev DoubleBits := BitVec Format.binary64.numBits

theorem unpack_mantissa_to_nat (bits : DoubleBits) :
    (unpackMantissa bits).toNat = bits.toNat % 2 ^ 52 := by
  simp [unpackMantissa, BitVec.extractLsb_toNat]

theorem unpack_exponent_to_nat (bits : DoubleBits) :
    (unpackExponent bits).toNat = bits.toNat / 2 ^ 52 % 2 ^ 11 := by
  simp [unpackExponent, BitVec.extractLsb_toNat, Nat.shiftRight_eq_div_pow]

theorem unpack_sign_to_nat (bits : DoubleBits) :
    (unpackSign bits).toNat = bits.toNat / 2 ^ 63 := by
  have bounded : bits.toNat < 2 ^ 64 := bits.isLt
  have lifted : (unpackSign bits).toNat = bits.toNat / 2 ^ 63 % 2 := by
    delta unpackSign
    simp [BitVec.extractLsb_toNat, Nat.shiftRight_eq_div_pow]
  rw [lifted]
  omega

theorem pack_components_to_nat (sign : Sign) (exponent : BitVec Format.binary64.exponentBits)
    (mantissa : BitVec Format.binary64.mantissaBitsWithoutImplicit) :
    (packComponents Format.binary64 sign exponent mantissa).toNat =
      (sign.toBitVec.toNat * 2 ^ 11 + exponent.toNat) * 2 ^ 52 + mantissa.toNat := by
  rw [packComponents, BitVec.toNat_append, BitVec.toNat_append,
    ← Nat.shiftLeft_add_eq_or_of_lt mantissa.isLt, ← Nat.shiftLeft_add_eq_or_of_lt exponent.isLt]
  simp only [Nat.shiftLeft_eq]

theorem sign_bits_of_bits (bits : BitVec 1) : (Sign.ofBitVec bits).toBitVec = bits := by
  revert bits
  decide

theorem sign_of_bits_of_sign (sign : Sign) : Sign.ofBitVec sign.toBitVec = sign := by
  cases sign <;> rfl

theorem unpack_sign_pack (sign : Sign) (exponent : BitVec Format.binary64.exponentBits)
    (mantissa : BitVec Format.binary64.mantissaBitsWithoutImplicit) :
    unpackSign (packComponents Format.binary64 sign exponent mantissa) = sign.toBitVec := by
  apply BitVec.eq_of_toNat_eq
  have exponentBounded : exponent.toNat < 2 ^ 11 := exponent.isLt
  have mantissaBounded : mantissa.toNat < 2 ^ 52 := mantissa.isLt
  rw [unpack_sign_to_nat, pack_components_to_nat]
  omega

theorem pack_components_of_bits (bits : DoubleBits) :
    packComponents Format.binary64 (Sign.ofBitVec (unpackSign bits)) (unpackExponent bits)
      (unpackMantissa bits) = bits := by
  apply BitVec.eq_of_toNat_eq
  rw [pack_components_to_nat, sign_bits_of_bits, unpack_sign_to_nat, unpack_exponent_to_nat,
    unpack_mantissa_to_nat]
  omega

theorem mantissa_bits_of_small {mantissa : ℕ} (small : mantissa < 2 ^ 52) :
    (BitVec.ofNat Format.binary64.mantissaBitsWithoutImplicit mantissa).toNat = mantissa := by
  rw [BitVec.toNat_ofNat, Nat.mod_eq_of_lt small]

theorem exponent_bits_of_biased {biased : ℕ} (bounded : biased < 2048) :
    (BitVec.ofNat Format.binary64.exponentBits biased).toNat = biased := by
  rw [BitVec.toNat_ofNat]
  exact Nat.mod_eq_of_lt bounded

/-! ### Packing canonical doubles -/

theorem pack_subnormal (sign : Sign) {mantissa : ℕ} (positive : 0 < mantissa)
    (small : mantissa < 2 ^ 52) :
    UnpackedFloat.pack Format.binary64 (.finite sign mantissa (-1074) positive) =
      packComponents Format.binary64 sign 0#_ (BitVec.ofNat _ mantissa) := by
  have logarithm : mantissa.log2 < 52 := (Nat.log2_lt positive.ne').mpr small
  change (if 2 ^ 11 ≤ ((-1074 : ℤ) + (1023 : ℕ) + (52 : ℕ)).toNat + 1 then
      packedInfinity Format.binary64 sign
    else if mantissa.log2 + 1 = 53 then packComponents Format.binary64 sign _ _
    else packComponents Format.binary64 sign _ _) = _
  rw [if_neg (by decide), if_neg (by omega)]

theorem pack_normal (sign : Sign) {mantissa biased : ℕ} (normal : 2 ^ 52 ≤ mantissa)
    (bounded : mantissa < 2 ^ 53) (finite : biased < 2047) :
    UnpackedFloat.pack Format.binary64 (.finite sign mantissa ((biased : ℤ) - 1075)
        (Nat.lt_of_lt_of_le (by decide) normal)) =
      packComponents Format.binary64 sign (BitVec.ofNat _ biased) (BitVec.ofNat _ mantissa) := by
  have positive : mantissa ≠ 0 := by omega
  have logarithm : mantissa.log2 = 52 := by
    have lower : 52 ≤ mantissa.log2 := (Nat.le_log2 positive).mpr normal
    have upper : mantissa.log2 < 53 := (Nat.log2_lt positive).mpr bounded
    omega
  have unbiased : ((biased : ℤ) - 1075 + (1023 : ℕ) + (52 : ℕ)).toNat = biased := by omega
  change (if 2 ^ 11 ≤ ((biased : ℤ) - 1075 + (1023 : ℕ) + (52 : ℕ)).toNat + 1 then _
    else if mantissa.log2 + 1 = 53 then packComponents Format.binary64 sign
      (BitVec.ofNat _ ((biased : ℤ) - 1075 + (1023 : ℕ) + (52 : ℕ)).toNat) _ else _) = _
  rw [unbiased, if_neg (by omega), if_pos (by omega)]

theorem unpack_components (sign : Sign) (exponent : BitVec Format.binary64.exponentBits)
    (mantissa : BitVec Format.binary64.mantissaBitsWithoutImplicit) :
    unpackExponent (packComponents Format.binary64 sign exponent mantissa) = exponent ∧
      unpackMantissa (packComponents Format.binary64 sign exponent mantissa) = mantissa ∧
      Sign.ofBitVec (unpackSign (packComponents Format.binary64 sign exponent mantissa)) = sign := by
  refine ⟨unpackExponent_packComponents, unpackMantissa_packComponents, ?_⟩
  rw [unpack_sign_pack, sign_of_bits_of_sign]

theorem finite_eq {sign : Sign} {mantissa other : ℕ} {exponent otherExponent : ℤ}
    (sameMantissa : mantissa = other) (sameExponent : exponent = otherExponent)
    (positive : 0 < mantissa) (otherPositive : 0 < other) :
    UnpackedFloat.finite sign mantissa exponent positive =
      .finite sign other otherExponent otherPositive := by
  subst sameMantissa sameExponent
  rfl

theorem unpack_zero {bits : DoubleBits} (exponentZero : unpackExponent bits = 0#_)
    (mantissaZero : unpackMantissa bits = 0#_) :
    UnpackedFloat.unpack Format.binary64 bits = .zero (Sign.ofBitVec (unpackSign bits)) := by
  delta UnpackedFloat.unpack
  dsimp only
  rw [if_neg (by rw [exponentZero]; decide), if_pos exponentZero, dif_pos mantissaZero]

theorem unpack_subnormal {bits : DoubleBits} {sign : Sign} {mantissa : ℕ} (positive : 0 < mantissa)
    (exponentZero : unpackExponent bits = 0#_) (mantissaIs : (unpackMantissa bits).toNat = mantissa)
    (signIs : Sign.ofBitVec (unpackSign bits) = sign) :
    UnpackedFloat.unpack Format.binary64 bits = .finite sign mantissa (-1074) positive := by
  have nonzero : unpackMantissa bits ≠ 0#_ := by
    intro zero
    rw [zero] at mantissaIs
    exact positive.ne mantissaIs
  delta UnpackedFloat.unpack
  dsimp only
  rw [signIs]
  rw [if_neg (by rw [exponentZero]; decide), if_pos exponentZero, dif_neg nonzero]
  refine finite_eq mantissaIs ?_ _ positive
  rw [exponentZero]
  rfl

theorem unpack_normal {bits : DoubleBits} {sign : Sign} {fraction biased : ℕ}
    (exponentIs : (unpackExponent bits).toNat = biased) (nonzero : biased ≠ 0)
    (finite : biased < 2047) (mantissaIs : (unpackMantissa bits).toNat = fraction)
    (signIs : Sign.ofBitVec (unpackSign bits) = sign) :
    UnpackedFloat.unpack Format.binary64 bits =
      .finite sign (2 ^ 52 + fraction) ((biased : ℤ) - 1075)
        (Nat.add_pos_left (Nat.two_pow_pos 52) fraction) := by
  have notTop : unpackExponent bits ≠ -1#_ := by
    intro top
    rw [top] at exponentIs
    change 2047 = biased at exponentIs
    omega
  have notZero : unpackExponent bits ≠ 0#_ := by
    intro zero
    rw [zero] at exponentIs
    exact nonzero exponentIs.symm
  have mantissaEq : (1#1 ++ unpackMantissa bits).toNat = 2 ^ 52 + fraction := by
    rw [BitVec.toNat_append, ← Nat.shiftLeft_add_eq_or_of_lt (BitVec.isLt _), Nat.shiftLeft_eq,
      mantissaIs]
    rfl
  delta UnpackedFloat.unpack
  dsimp only
  rw [signIs]
  rw [if_neg notTop, if_neg notZero]
  refine finite_eq mantissaEq ?_ _ _
  rw [exponentIs]
  rfl

theorem unpack_pack_finite (sign : Sign) {mantissa : ℕ} {exponent : ℤ} (positive : 0 < mantissa)
    (bounded : mantissa < 2 ^ 53) (least : -1074 ≤ exponent) (greatest : exponent ≤ 971)
    (subnormal : mantissa < 2 ^ 52 → exponent = -1074) :
    UnpackedFloat.unpack Format.binary64 (UnpackedFloat.pack Format.binary64
      (.finite sign mantissa exponent positive)) = .finite sign mantissa exponent positive := by
  rcases Nat.lt_or_ge mantissa (2 ^ 52) with small | normal
  · rw [subnormal small]
    obtain ⟨exponentIs, mantissaIs, signIs⟩ :=
      unpack_components sign 0#_ (BitVec.ofNat _ mantissa)
    rw [pack_subnormal sign positive small]
    exact unpack_subnormal positive exponentIs
      (by rw [mantissaIs, mantissa_bits_of_small small]) signIs
  · obtain ⟨biased, rfl⟩ : ∃ biased : ℕ, exponent = (biased : ℤ) - 1075 :=
      ⟨(exponent + 1075).toNat, by omega⟩
    have inRange : biased < 2047 := by omega
    obtain ⟨exponentIs, mantissaIs, signIs⟩ :=
      unpack_components sign (BitVec.ofNat _ biased) (BitVec.ofNat _ mantissa)
    have fraction : (BitVec.ofNat Format.binary64.mantissaBitsWithoutImplicit mantissa).toNat =
        mantissa - 2 ^ 52 := by
      rw [BitVec.toNat_ofNat]
      change mantissa % 2 ^ 52 = _
      omega
    rw [pack_normal sign normal bounded inRange, unpack_normal
      (by rw [exponentIs, exponent_bits_of_biased (by omega)]) (by omega) inRange
      (by rw [mantissaIs, fraction]) signIs]
    exact finite_eq (by omega) rfl _ _

/-! ### The bits of any double -/

def signOf (value : Float) : Sign := if isMinus value then .negative else .positive

theorem sign_of_bits (value : Float) :
    Sign.ofBitVec (@unpackSign Format.binary64 value.toModel.toBits.toBitVec) =
      signOf value := by
  have bits := unpack_sign_to_nat value.toModel.toBits.toBitVec
  have top : (@unpackSign Format.binary64 value.toModel.toBits.toBitVec) = 1#1 ↔
      isMinus value = true := by
    rw [← BitVec.toNat_inj, bits, isMinus, decide_eq_true_iff]
    rfl
  rw [signOf, Sign.ofBitVec]
  by_cases minus : isMinus value = true
  · rw [if_pos minus, top.mpr minus]
    rfl
  · have notOne := fun one => minus (top.mp one)
    rw [if_neg minus, if_pos]
    have values := BitVec.isLt (@unpackSign Format.binary64 value.toModel.toBits.toBitVec)
    apply BitVec.eq_of_toNat_eq
    have notOneNat := fun same => notOne (BitVec.eq_of_toNat_eq same)
    change _ = 0
    change ¬_ = 1 at notOneNat
    omega

theorem magnitude_fraction (value : Float) :
    magnitudeBits value % twoTo 52 = value.toModel.toBits.toBitVec.toNat % 2 ^ 52 := by
  change value.toModel.toBits.toBitVec.toNat % 2 ^ 63 % 2 ^ 52 = _
  omega

theorem magnitude_biased (value : Float) : magnitudeBits value / twoTo 52 % twoTo 11 =
    value.toModel.toBits.toBitVec.toNat / 2 ^ 52 % 2 ^ 11 := by
  change value.toModel.toBits.toBitVec.toNat % 2 ^ 63 / 2 ^ 52 % 2 ^ 11 = _
  omega

theorem of_bits_subnormal {bits : ℕ} (subnormal : bits / twoTo 52 % twoTo 11 = 0) :
    Binary.ofBits bits = ⟨bits % twoTo 52, -1074, false⟩ :=
  if_pos subnormal

theorem of_bits_normal {bits : ℕ} (normal : ¬bits / twoTo 52 % twoTo 11 = 0) :
    Binary.ofBits bits = ⟨twoTo 52 + bits % twoTo 52, ((bits / twoTo 52 % twoTo 11 : ℕ) : ℤ) - 1075,
      bits % twoTo 52 == 0 && decide (1 < bits / twoTo 52 % twoTo 11)⟩ :=
  if_neg normal

/-- The positive part of bits other than zero and with an exponent below the greatest one. -/
theorem of_bits_canonical {bits : ℕ} (nonzero : bits ≠ 0) (bounded : bits < 2 ^ 63)
    (finite : bits / 2 ^ 52 < 2047) : (Binary.ofBits bits).Canonical := by
  by_cases subnormal : bits / twoTo 52 % twoTo 11 = 0
  · rw [of_bits_subnormal subnormal]
    change bits / 2 ^ 52 % 2 ^ 11 = 0 at subnormal
    change (Binary.mk (bits % 2 ^ 52) (-1074) false).Canonical
    exact ⟨by simp only; omega, by simp only; omega, by simp, by simp, by simp, by simp⟩
  · rw [of_bits_normal subnormal]
    change ¬bits / 2 ^ 52 % 2 ^ 11 = 0 at subnormal
    change (Binary.mk (2 ^ 52 + bits % 2 ^ 52) (((bits / 2 ^ 52 % 2 ^ 11 : ℕ) : ℤ) - 1075)
      (bits % 2 ^ 52 == 0 && decide (1 < bits / 2 ^ 52 % 2 ^ 11))).Canonical
    refine ⟨by simp only; omega, by simp only; omega, by simp only; omega, by simp only; omega,
      by simp, ?_⟩
    simp only [Bool.and_eq_true, beq_iff_eq, decide_eq_true_iff]
    omega

theorem magnitude_bounded (value : Float) : magnitudeBits value < 2 ^ 63 :=
  Nat.mod_lt _ (by decide)

/-- Only infinities and the value that is no number have the greatest exponent. -/
theorem exponent_of_finite {value : Float} (number : value.isNaN = false)
    (finite : value.isInf = false) :
    value.toModel.toBits.toBitVec.toNat / 2 ^ 52 % 2 ^ 11 < 2047 := by
  have bits := unpack_exponent_to_nat value.toModel.toBits.toBitVec
  have small := (@unpackExponent Format.binary64 value.toModel.toBits.toBitVec).isLt
  by_contra large
  have top : @unpackExponent Format.binary64 value.toModel.toBits.toBitVec = -1#_ := by
    apply BitVec.eq_of_toNat_eq
    change _ = 2047
    change _ < 2048 at small
    omega
  change (UnpackedFloat.unpack Format.binary64 value.toModel.toBits.toBitVec).isNaN = false at number
  change (UnpackedFloat.unpack Format.binary64 value.toModel.toBits.toBitVec).isInf = false at finite
  delta UnpackedFloat.unpack at number finite
  dsimp only at number finite
  rw [if_pos top] at number finite
  by_cases whole : @unpackMantissa Format.binary64 value.toModel.toBits.toBitVec = 0#_
  · rw [if_pos whole] at finite
    change true = false at finite
    exact absurd finite (by decide)
  · rw [if_neg whole] at number
    change true = false at number
    exact absurd number (by decide)

theorem magnitude_canonical {value : Float} (number : value.isNaN = false)
    (finite : value.isInf = false) (nonzero : magnitudeBits value ≠ 0) :
    (Binary.ofBits (magnitudeBits value)).Canonical := by
  apply of_bits_canonical nonzero (magnitude_bounded value)
  have bounded := magnitude_bounded value
  have exponent := exponent_of_finite number finite
  rw [← magnitude_biased] at exponent
  change magnitudeBits value / 2 ^ 52 % 2 ^ 11 < 2047 at exponent
  omega

theorem unpack_finite {value : Float} (number : value.isNaN = false)
    (finite : value.isInf = false) (nonzero : magnitudeBits value ≠ 0) :
    value.toModel.unpack = .finite (signOf value) (Binary.ofBits (magnitudeBits value)).mantissa
      (Binary.ofBits (magnitudeBits value)).exponent
      (magnitude_canonical number finite nonzero).positive := by
  have positive := (magnitude_canonical number finite nonzero).positive
  have exponentIs := unpack_exponent_to_nat value.toModel.toBits.toBitVec
  have mantissaIs := unpack_mantissa_to_nat value.toModel.toBits.toBitVec
  have exponentBounded := exponent_of_finite number finite
  rw [← magnitude_biased] at exponentIs exponentBounded
  rw [← magnitude_fraction] at mantissaIs
  change UnpackedFloat.unpack Format.binary64 value.toModel.toBits.toBitVec = _
  by_cases subnormal : magnitudeBits value / twoTo 52 % twoTo 11 = 0
  · have parts := of_bits_subnormal subnormal
    have fractionPositive : 0 < magnitudeBits value % twoTo 52 := by
      rw [parts] at positive
      exact positive
    have exponentZero : @unpackExponent Format.binary64 value.toModel.toBits.toBitVec = 0#_ := by
      apply BitVec.eq_of_toNat_eq
      rw [exponentIs, subnormal]
      rfl
    have unpacked := unpack_subnormal fractionPositive exponentZero mantissaIs (sign_of_bits value)
    exact unpacked.trans (finite_eq (by rw [parts]) (by rw [parts]) _ _)
  · have parts := of_bits_normal subnormal
    have unpacked :=
      unpack_normal exponentIs subnormal exponentBounded mantissaIs (sign_of_bits value)
    exact unpacked.trans (finite_eq (by rw [parts]; rfl) (by rw [parts]) _ _)

/-- Packing the unpacked form of a double gives the double. -/
theorem pack_unpack (value : Float) : Float.ofModel (Float.Model.pack value.toModel.unpack) = value := by
  have components := pack_components_of_bits value.toModel.toBits.toBitVec
  have mantissaIs := unpack_mantissa_to_nat value.toModel.toBits.toBitVec
  have exponentIs := unpack_exponent_to_nat value.toModel.toBits.toBitVec
  have valid := value.toModel.valid.eq_packedNaN
  obtain ⟨⟨bits, _⟩⟩ := value
  apply congrArg Float.ofModel
  rw [Float.Model.mk.injEq]
  apply UInt64.toBitVec_inj.mp
  change UnpackedFloat.pack Format.binary64 (UnpackedFloat.unpack Format.binary64 bits.toBitVec) =
    bits.toBitVec
  simp only at components mantissaIs exponentIs valid
  generalize bits.toBitVec = word at *
  have top : (-1#11).toNat = 2047 := rfl
  by_cases greatest : @unpackExponent Format.binary64 word = -1#_
  · by_cases whole : @unpackMantissa Format.binary64 word = 0#_
    · delta UnpackedFloat.unpack
      dsimp only
      rw [if_pos greatest, if_pos whole]
      rw [greatest, whole] at components
      exact components
    · delta UnpackedFloat.unpack
      dsimp only
      rw [if_pos greatest, if_neg whole]
      exact (valid greatest whole).symm
  · by_cases least : @unpackExponent Format.binary64 word = 0#_
    · by_cases whole : @unpackMantissa Format.binary64 word = 0#_
      · rw [unpack_zero least whole]
        rw [least, whole] at components
        exact components
      · have positive : 0 < (@unpackMantissa Format.binary64 word).toNat := by
          apply Nat.pos_of_ne_zero
          intro zero
          apply whole
          apply BitVec.eq_of_toNat_eq
          rw [zero]
          rfl
        rw [unpack_subnormal positive least rfl rfl, pack_subnormal _ positive (BitVec.isLt _),
          BitVec.ofNat_toNat, BitVec.setWidth_eq, ← least]
        exact components
    · have exponentSmall := (@unpackExponent Format.binary64 word).isLt
      change _ < 2048 at exponentSmall
      have below : (@unpackExponent Format.binary64 word).toNat < 2047 := by
        by_contra large
        apply greatest
        apply BitVec.eq_of_toNat_eq
        change _ = (-1#11).toNat
        omega
      have nonzero : (@unpackExponent Format.binary64 word).toNat ≠ 0 := by
        intro zero
        apply least
        apply BitVec.eq_of_toNat_eq
        rw [zero]
        rfl
      have mantissaSmall : (@unpackMantissa Format.binary64 word).toNat < 2 ^ 52 :=
        BitVec.isLt _
      have mantissaBits : BitVec.ofNat Format.binary64.mantissaBitsWithoutImplicit
          (2 ^ 52 + (@unpackMantissa Format.binary64 word).toNat) =
            @unpackMantissa Format.binary64 word := by
        apply BitVec.eq_of_toNat_eq
        rw [BitVec.toNat_ofNat]
        change _ % 2 ^ 52 = _
        omega
      rw [unpack_normal rfl nonzero below rfl rfl, pack_normal _ (by omega) (by omega) below,
        BitVec.ofNat_toNat, BitVec.setWidth_eq, mantissaBits]
      exact components

end PriceBoard.Decimal
