import ContractGateway.Proofs.Number.Rounding

/-!
# Whole numbers as doubles

A double has room for fifty-three binary digits. A whole number with more of them becomes the
nearest multiple of the power of two that is the place of its last digit with room,
`Binary64.nearestWhole`. It is kept as it is exactly when its other digits are zeros.

Multiplying a double by one changes nothing, and the integer part of a whole double is the number
itself, so a whole number that goes through a double and back is rounded once.
-/

namespace ContractGateway.Binary64

/-! ## The nearest whole number with fifty-three digits -/

/-- How many binary digits of a number a double has no room for. -/
def spareDigits (value : Nat) : Nat := Nat.log2 value - 52

/-- The nearest number whose spare digits are zeros, of two equally near ones the even multiple. -/
def nearestWhole (value : Nat) : Nat :=
  roundQuotient value (2 ^ spareDigits value) * 2 ^ spareDigits value

theorem roundQuotient_of_dvd
    {numerator denominator : Nat}
    (positive : 0 < denominator)
    (divides : denominator ∣ numerator) :
    roundQuotient numerator denominator = numerator / denominator := by
  simp [roundQuotient, Nat.mod_eq_zero_of_dvd divides, positive.ne]

/-- A number is kept exactly when its spare digits are zeros. -/
theorem nearestWhole_eq_iff (value : Nat) :
    nearestWhole value = value ↔ 2 ^ spareDigits value ∣ value := by
  constructor
  · intro kept
    exact ⟨_, kept.symm.trans (Nat.mul_comm _ _)⟩
  · intro divides
    rw [nearestWhole, roundQuotient_of_dvd (Nat.two_pow_pos _) divides,
      Nat.div_mul_cancel divides]

theorem nearestWhole_of_lt
    {value : Nat}
    (small : value < 2 ^ 53) :
    nearestWhole value = value := by
  have none : spareDigits value = 0 := by
    rcases Nat.eq_zero_or_pos value with rfl | positive
    · rfl
    · have := (Nat.log2_lt positive.ne').mpr small
      rw [spareDigits]
      omega
  rw [nearestWhole_eq_iff, none]
  exact one_dvd value

/-- Rounding moves a number by half the place of its last digit with room at most. -/
theorem abs_nearestWhole_sub_le (value : Nat) :
    2 ^ 53 * |(nearestWhole value : ℚ) - value| ≤ value := by
  rcases Nat.eq_zero_or_pos (spareDigits value) with none | some
  · have kept : nearestWhole value = value := by
      rw [nearestWhole_eq_iff, none]
      exact one_dvd value
    simp [kept]
  · have positive : value ≠ 0 := by
      rintro rfl
      exact absurd some (by decide)
    have reaches : (2 ^ spareDigits value * 2 ^ 52 : ℚ) ≤ value := by
      have least := Nat.log2_self_le positive
      have digits : Nat.log2 value = spareDigits value + 52 := by
        rw [spareDigits] at some ⊢
        omega
      rw [digits, pow_add] at least
      exact_mod_cast least
    have unit : (0 : ℚ) < 2 ^ spareDigits value := by positivity
    have rounded := isRounded_roundQuotient value (Nat.two_pow_pos (spareDigits value))
    have low := mul_le_mul_of_nonneg_right rounded.low unit.le
    have high := mul_le_mul_of_nonneg_right rounded.high unit.le
    push_cast [nearestWhole] at low high ⊢
    rw [add_mul, div_mul_cancel₀ _ unit.ne'] at low
    rw [div_mul_cancel₀ _ unit.ne'] at high
    have half :
        |(roundQuotient value (2 ^ spareDigits value) : ℚ) * 2 ^ spareDigits value - value| ≤
          2 ^ spareDigits value / 2 := by
      rw [abs_le]
      constructor <;> linarith
    linarith

/-! ## Doubles that stand for whole numbers -/

/-- A double that is finite and not negative, and the number that it stands for. -/
structure StandsFor (number : Binary64) (value : ℚ) : Prop where
  finite : number.isFinite = true
  unsigned : number.isNegative = false
  magnitude : number.magnitude = value

theorem isRounded_natCast (integer : Nat) : IsRounded integer integer := by
  refine ⟨by linarith, by linarith, ?_⟩
  rintro (edge | edge) <;> linarith

theorem scaleOf_natCast (value : Nat) : scaleOf value = (Nat.log2 value : Int) - 52 := by
  rw [scaleOf, Int.log_natCast, ← Nat.log2_eq_log_two]
  omega

/-- The mantissa that a whole number is rounded to, at its scale, is the nearest whole number. -/
theorem nearestWhole_of_isRounded
    {value integer : Nat}
    (positive : 0 < value)
    (rounded : IsRounded ((value : ℚ) / 2 ^ scaleOf value) integer) :
    (integer : ℚ) * 2 ^ scaleOf value = nearestWhole value := by
  rcases Nat.lt_or_ge (Nat.log2 value) 52 with short | long
  · -- The scale is below zero, where the number of units is a whole number already.
    have units : (value : ℚ) / 2 ^ scaleOf value = (value * 2 ^ (52 - Nat.log2 value) : Nat) := by
      have exponent : scaleOf value = -((52 - Nat.log2 value : Nat) : Int) := by
        rw [scaleOf_natCast]
        omega
      rw [exponent, zpow_neg, div_inv_eq_mul, zpow_natCast]
      push_cast
      rfl
    have small : value < 2 ^ 53 := (Nat.log2_lt positive.ne').mp (by omega)
    have mantissa : integer = value * 2 ^ (52 - Nat.log2 value) :=
      rounded.unique (units ▸ isRounded_natCast _)
    rw [mantissa, ← units, div_mul_cancel₀ _ (two_zpow_pos _).ne', nearestWhole_of_lt small]
  · have exponent : scaleOf value = (spareDigits value : Int) := by
      rw [scaleOf_natCast, spareDigits]
      omega
    rw [exponent, zpow_natCast] at rounded ⊢
    have quotient := isRounded_roundQuotient value (Nat.two_pow_pos (spareDigits value))
    push_cast at quotient
    rw [rounded.unique quotient, nearestWhole]
    push_cast
    rfl

/-- Bits below those of an infinity are a finite double with their scale and mantissa. -/
theorem standsFor_ofMagnitude
    {integer : Nat}
    {scale : Int}
    (least : -1074 ≤ scale)
    (small : integer ≤ 2 ^ 53)
    (full : -1074 < scale → 2 ^ 52 ≤ integer)
    (finite : magnitudeBits integer scale < infinityBits) :
    StandsFor (ofMagnitude false (magnitudeBits integer scale)) (integer * 2 ^ scale) := by
  generalize double : ofMagnitude false (magnitudeBits integer scale) = number
  have bits : number.bits.toNat = magnitudeBits integer scale := by
    have width : infinityBits < 2 ^ 64 := by decide
    simp only [← double, ofMagnitude, Bool.false_eq_true, if_false, Nat.add_zero,
      BitVec.toNat_ofNat]
    exact Nat.mod_eq_of_lt (finite.trans width)
  have unsigned : number.isNegative = false := by
    have signless : infinityBits < 2 ^ 63 := by decide
    simp only [isNegative, bits, decide_eq_false_iff_not]
    omega
  refine ⟨?_, unsigned, ?_⟩
  · rw [infinityBits] at finite
    simp only [isFinite, exponentField, bits, ne_eq, decide_eq_true_eq]
    omega
  · have fields := number.bits_eq_magnitudeBits
    rw [unsigned, bits, if_neg Bool.false_ne_true, Nat.add_zero] at fields
    rcases (magnitudeBits_eq_iff number.normalized_of_fields least small full).mp fields with
      ⟨same, mantissa⟩ | ⟨next, carried, mantissa⟩
    · rw [magnitude, same, mantissa]
    · rw [magnitude, ← next, carried, mantissa, zpow_add_one₀ (by norm_num)]
      push_cast
      ring

/-- A whole number is converted into the double that stands for the nearest one. -/
theorem standsFor_ofNat
    {value : Nat}
    (small : value < 2 ^ 1023) :
    StandsFor (ofNat value) (nearestWhole value) := by
  rcases Nat.eq_zero_or_pos value with rfl | positive
  · refine ⟨by decide, by decide, ?_⟩
    have mantissa : (ofNat 0).mantissa = 0 := by decide
    rw [magnitude, mantissa, nearestWhole_of_lt (by decide)]
    simp
  · have positiveQ : (0 : ℚ) < value := by exact_mod_cast positive
    have log : Nat.log2 value < 1023 := (Nat.log2_lt positive.ne').mpr small
    obtain ⟨integer, rounded, bits⟩ := exists_roundRatio positive Nat.one_pos
    rw [Nat.cast_one, div_one] at rounded bits
    have atMost := rounded.le_of_scaleOf
    have finite : magnitudeBits integer (scaleOf value) < infinityBits := by
      rw [scaleOf_natCast, magnitudeBits, infinityBits]
      omega
    rw [← nearestWhole_of_isRounded positive rounded, ofNat, ofRatio, bits,
      Nat.min_eq_left finite.le]
    exact standsFor_ofMagnitude (le_max_right _ _) atMost (rounded.ge_of_scaleOf positiveQ) finite

/-! ## Products and integer parts -/

/-- The double that stands for one. -/
def one : Binary64 := ⟨0x3ff0000000000000⟩

/-- Every double is near the number that it stands for. -/
theorem near_self
    (mantissa : Nat)
    (scale : Int) :
    Near mantissa scale (mantissa * 2 ^ scale) := by
  have gap : 0 < halfGapBelow mantissa scale := by
    rw [halfGapBelow]
    split <;> norm_num
  constructor <;> rw [mul_div_cancel_right₀ _ (two_zpow_pos scale).ne']
  · linarith
  · linarith
  · rintro (edge | edge) <;> linarith

/-- A product with one is rounded to the other factor. -/
theorem mul_one_of_isFinite
    {number : Binary64}
    (finite : number.isFinite = true) :
    number.mul one = number := by
  have ratio :
      ((number.numerator * one.numerator : Nat) : ℚ) / (number.denominator * one.denominator : Nat) =
        number.mantissa * 2 ^ number.scale := by
    have numerator : one.numerator = 2 ^ 52 := by decide
    have denominator : one.denominator = 2 ^ 52 := by decide
    rw [numerator, denominator, Nat.cast_mul, Nat.cast_mul,
      mul_div_mul_right _ _ (by norm_num), Binary64.numerator, Binary64.denominator,
      Nat.cast_mul, mul_div_assoc, powerOfTwo_ratio]
  have divisor : 0 < number.denominator * one.denominator :=
    Nat.mul_pos (powerOfTwo_snd_pos _) (powerOfTwo_snd_pos _)
  have oneFields : one.isNaN = false ∧ one.isFinite = true ∧ one.isNegative = false := by decide
  have product : number.mul one =
      ofMagnitude number.isNegative
        (roundRatio (number.numerator * one.numerator)
          (number.denominator * one.denominator)) := by
    simp [mul, isNaN_of_isFinite finite, finite, oneFields]
  rw [product, ofMagnitude_roundRatio_eq_iff finite _ divisor, ratio]
  exact near_self _ _

theorem StandsFor.truncate_eq
    {number : Binary64}
    {value : Nat}
    (stands : StandsFor number value)
    (largest : Nat) :
    number.truncate largest = min value largest := by
  obtain ⟨finite, unsigned, whole⟩ := stands
  have positive : 0 < number.denominator := powerOfTwo_snd_pos _
  have exact : number.numerator = value * number.denominator := by
    have divisor : (number.denominator : ℚ) ≠ 0 := by exact_mod_cast positive.ne'
    rw [Binary64.magnitude, ← powerOfTwo_ratio, ← mul_div_assoc] at whole
    exact_mod_cast (div_eq_iff divisor).mp whole
  simp only [truncate, isNaN_of_isFinite finite, unsigned, finite, Bool.or_self, Bool.not_true,
    Bool.false_eq_true, if_false]
  rw [exact, Nat.mul_div_cancel _ positive]

end ContractGateway.Binary64
