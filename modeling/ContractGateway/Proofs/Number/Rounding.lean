import ContractGateway.Number.Binary64
import Mathlib.Algebra.Order.Field.Power
import Mathlib.Data.Int.Log
import Mathlib.Data.Rat.Floor
import Mathlib.Tactic.FieldSimp
import Mathlib.Tactic.Linarith
import Mathlib.Tactic.NormNum
import Mathlib.Tactic.Positivity
import Mathlib.Tactic.Ring

/-!
# Rounding to a double

Fractions of natural numbers are read as rationals here. A fraction rounds to a given finite double
exactly when it lies between the points halfway to the two neighbours of the double, and a point
halfway rounds to it when its mantissa is even. The double below a power of two is only half as far
away as the one above.
-/

namespace ContractGateway.Binary64

/-- A power with an integer exponent, as a fraction of two powers of which one is `1`. -/
theorem pow_toNat_div (base : ℚ) (exponent : Int) :
    base ^ exponent.toNat / base ^ (-exponent).toNat = base ^ exponent := by
  obtain ⟨power, rfl | rfl⟩ := exponent.eq_nat_or_neg
  · simp
  · simp

theorem powerOfTwo_ratio (exponent : Int) :
    ((powerOfTwo exponent).1 : ℚ) / (powerOfTwo exponent).2 = 2 ^ exponent := by
  simpa [powerOfTwo] using pow_toNat_div 2 exponent

theorem powerOfTwo_fst_pos (exponent : Int) : 0 < (powerOfTwo exponent).1 := by
  simp [powerOfTwo]

theorem powerOfTwo_snd_pos (exponent : Int) : 0 < (powerOfTwo exponent).2 := by
  simp [powerOfTwo]

theorem two_zpow_pos (exponent : Int) : (0 : ℚ) < 2 ^ exponent :=
  zpow_pos (by norm_num) exponent

/-! ## Fields -/

/-- The magnitude of a finite number. -/
def magnitude (number : Binary64) : ℚ := number.mantissa * 2 ^ number.scale

/-- A mantissa of fifty-three bits, but of fewer at the least scale there is. -/
structure Normalized (mantissa : Nat) (scale : Int) : Prop where
  small : mantissa < 2 ^ 53
  least : -1074 ≤ scale
  full : -1074 < scale → 2 ^ 52 ≤ mantissa

theorem fraction_lt (number : Binary64) : number.fraction < 2 ^ 52 :=
  Nat.mod_lt _ (by decide)

theorem normalized_of_fields (number : Binary64) :
    Normalized number.mantissa number.scale := by
  have fraction := number.fraction_lt
  by_cases denormal : number.exponentField = 0
  · constructor <;> simp only [mantissa, scale, denormal, if_true] <;> omega
  · constructor <;> simp only [mantissa, scale, denormal, if_false] <;> omega

theorem isNaN_of_isFinite
    {number : Binary64}
    (finite : number.isFinite = true) :
    number.isNaN = false := by
  simp only [isFinite, decide_eq_true_eq] at finite
  simp [isNaN, finite]

theorem scale_le_of_isFinite {number : Binary64} (finite : number.isFinite = true) :
    number.scale ≤ 971 := by
  have field : number.exponentField < 2 ^ 11 := Nat.mod_lt _ (by decide)
  have notLast : number.exponentField ≠ 2047 := by simpa [isFinite] using finite
  rw [scale]
  split <;> omega

/-- The bits below the sign, from the mantissa and its scale. -/
def magnitudeBits (mantissa : Nat) (scale : Int) : Nat :=
  (scale + 1074).toNat * 2 ^ 52 + mantissa

theorem magnitudeBits_lt_infinityBits {number : Binary64} (finite : number.isFinite = true) :
    magnitudeBits number.mantissa number.scale < infinityBits := by
  have small := number.normalized_of_fields.small
  have scale := scale_le_of_isFinite finite
  rw [magnitudeBits, infinityBits]
  omega

/-- The bits of a number are those of its sign, of its scale and of its mantissa. -/
theorem bits_eq_magnitudeBits (number : Binary64) :
    number.bits.toNat =
      magnitudeBits number.mantissa number.scale +
        if number.isNegative = true then 2 ^ 63 else 0 := by
  have width : number.bits.toNat < 2 ^ 64 := number.bits.isLt
  by_cases negative : 2 ^ 63 ≤ number.bits.toNat <;>
    by_cases denormal : number.bits.toNat / 2 ^ 52 % 2 ^ 11 = 0 <;>
      simp only [magnitudeBits, mantissa, scale, isNegative, exponentField, fraction, negative,
        denormal, decide_true, decide_false, if_true, if_false, Bool.false_eq_true] <;>
      omega

theorem ofMagnitude_eq_iff
    {number : Binary64}
    {bits : Nat}
    (small : bits < 2 ^ 63) :
    ofMagnitude number.isNegative bits = number ↔
      bits = magnitudeBits number.mantissa number.scale := by
  have fields := number.bits_eq_magnitudeBits
  have width : number.bits.toNat < 2 ^ 64 := number.bits.isLt
  rw [ofMagnitude]
  constructor
  · intro same
    have sameBits : (bits + if number.isNegative = true then 2 ^ 63 else 0) % 2 ^ 64 =
        number.bits.toNat := by
      rw [← BitVec.toNat_ofNat]
      exact congrArg (fun other : Binary64 => other.bits.toNat) same
    split at sameBits <;> simp_all <;> omega
  · intro same
    have sameBits : BitVec.ofNat 64 (bits + if number.isNegative = true then 2 ^ 63 else 0) =
        number.bits := by
      rw [same, ← fields, BitVec.ofNat_toNat, BitVec.setWidth_eq]
    rw [sameBits]

/-! ## Rounding to an integer -/

/-- A natural number nearest to `x`, the even one of two. -/
structure IsRounded (x : ℚ) (integer : Nat) : Prop where
  low : integer ≤ x + 1 / 2
  high : x ≤ integer + 1 / 2
  even : integer = x + 1 / 2 ∨ x = integer + 1 / 2 → integer % 2 = 0

theorem IsRounded.unique
    {x : ℚ}
    {first second : Nat}
    (firstRounded : IsRounded x first)
    (secondRounded : IsRounded x second) :
    first = second := by
  -- Of two different ones the smaller lies half below `x` and the larger half above.
  have ordered : ∀ {small large : Nat}, IsRounded x small → IsRounded x large → ¬small < large := by
    intro small large smallRounded largeRounded less
    have distant : (small : ℚ) + 1 ≤ large := by exact_mod_cast less
    have half : x = small + 1 / 2 := le_antisymm smallRounded.high (by linarith [largeRounded.low])
    have next : (large : ℚ) = small + 1 := by linarith [largeRounded.low]
    have smallEven := smallRounded.even (.inr half)
    have largeEven := largeRounded.even (.inl (by linarith))
    have consecutive : large = small + 1 := by exact_mod_cast next
    omega
  exact le_antisymm
    (not_lt.mp (ordered secondRounded firstRounded))
    (not_lt.mp (ordered firstRounded secondRounded))

/-! ### Quotients and remainders -/

section Quotient

variable (numerator : Nat) {denominator : Nat}

theorem div_eq_quotient_add_rest (positive : 0 < denominator) :
    (numerator : ℚ) / denominator =
      (numerator / denominator : Nat) + (numerator % denominator : Nat) / (denominator : ℚ) := by
  have divisor : (denominator : ℚ) ≠ 0 := by exact_mod_cast positive.ne'
  rw [div_eq_iff divisor, add_mul, div_mul_cancel₀ _ divisor]
  exact_mod_cast (Nat.div_add_mod' numerator denominator).symm

theorem rest_lt_one (positive : 0 < denominator) :
    ((numerator % denominator : Nat) : ℚ) / denominator < 1 := by
  rw [div_lt_one (by exact_mod_cast positive)]
  exact_mod_cast Nat.mod_lt numerator positive

theorem rest_lt_half_iff (positive : 0 < denominator) :
    ((numerator % denominator : Nat) : ℚ) / denominator < 1 / 2 ↔
      2 * (numerator % denominator) < denominator := by
  rw [div_lt_div_iff₀ (by exact_mod_cast positive) (by norm_num), one_mul, mul_comm]
  exact_mod_cast Iff.rfl

theorem rest_eq_half_iff (positive : 0 < denominator) :
    ((numerator % denominator : Nat) : ℚ) / denominator = 1 / 2 ↔
      2 * (numerator % denominator) = denominator := by
  rw [div_eq_div_iff (by exact_mod_cast positive.ne') (by norm_num), one_mul, mul_comm]
  exact_mod_cast Iff.rfl

theorem isRounded_roundQuotient (positive : 0 < denominator) :
    IsRounded ((numerator : ℚ) / denominator) (roundQuotient numerator denominator) := by
  have nonnegative : (0 : ℚ) ≤ ((numerator % denominator : Nat) : ℚ) / denominator := by positivity
  have belowOne := rest_lt_one numerator positive
  have below := rest_lt_half_iff numerator positive
  have half := rest_eq_half_iff numerator positive
  rw [div_eq_quotient_add_rest numerator positive, roundQuotient]
  generalize ((numerator % denominator : Nat) : ℚ) / denominator = rest at *
  split
  case isTrue up =>
    have least : 1 / 2 ≤ rest := by
      refine not_lt.mp fun small => ?_
      have := below.mp small
      omega
    refine ⟨by push_cast; linarith, by push_cast; linarith, ?_⟩
    rintro (edge | edge)
    · have exact : rest = 1 / 2 := by push_cast at edge; linarith
      have := half.mp exact
      omega
    · push_cast at edge
      linarith
  case isFalse down =>
    have greatest : rest ≤ 1 / 2 := by
      rcases lt_trichotomy rest (1 / 2) with small | exact | large
      · exact small.le
      · exact exact.le
      · have notBelow := mt below.mpr large.not_gt
        have notHalf := mt half.mpr large.ne'
        omega
    refine ⟨by linarith, by linarith, ?_⟩
    rintro (edge | edge)
    · linarith
    · have := half.mp (by linarith)
      omega

end Quotient

/-! ## The scale of a rounded fraction -/

/-- The scale at which `x` has a mantissa of fifty-three bits, but not below the least one. -/
def scaleOf (x : ℚ) : Int := max (Int.log 2 x - 52) (-1074)

theorem div_scaleOf_lt (x : ℚ) : x / 2 ^ scaleOf x < 2 ^ 53 := by
  have next := Int.lt_zpow_succ_log_self (b := 2) (by decide) x
  have later : Int.log 2 x + 1 ≤ 53 + scaleOf x := by rw [scaleOf]; omega
  rw [div_lt_iff₀ (two_zpow_pos _)]
  calc x < (2 : ℚ) ^ (Int.log 2 x + 1) := by exact_mod_cast next
    _ ≤ 2 ^ (53 + scaleOf x) := zpow_le_zpow_right₀ (by norm_num) later
    _ = 2 ^ 53 * 2 ^ scaleOf x := by rw [zpow_add₀ (by norm_num)]; norm_cast

theorem le_div_scaleOf
    {x : ℚ}
    (positive : 0 < x)
    (high : -1074 < scaleOf x) :
    2 ^ 52 ≤ x / 2 ^ scaleOf x := by
  have scale : scaleOf x = Int.log 2 x - 52 := by rw [scaleOf] at high ⊢; omega
  have least := Int.zpow_log_le_self (b := 2) (by decide) positive
  rw [le_div_iff₀ (two_zpow_pos _)]
  calc (2 : ℚ) ^ 52 * 2 ^ scaleOf x = 2 ^ (52 + scaleOf x) := by
        rw [zpow_add₀ (by norm_num)]; norm_cast
    _ = 2 ^ Int.log 2 x := by rw [scale]; ring_nf
    _ ≤ x := by exact_mod_cast least

theorem scaleOf_eq
    {x : ℚ}
    {scale : Int}
    (positive : 0 < x)
    (least : -1074 ≤ scale)
    (below : x / 2 ^ scale < 2 ^ 53)
    (above : -1074 < scale → 2 ^ 52 ≤ x / 2 ^ scale) :
    scaleOf x = scale := by
  have logBelow : Int.log 2 x < 53 + scale := by
    rw [div_lt_iff₀ (two_zpow_pos _)] at below
    rw [← Int.lt_zpow_iff_log_lt (by decide) positive, zpow_add₀ (by norm_num)]
    exact_mod_cast below
  have logAbove : -1074 < scale → 52 + scale ≤ Int.log 2 x := by
    intro high
    have reaches := above high
    rw [le_div_iff₀ (two_zpow_pos _)] at reaches
    rw [← Int.zpow_le_iff_le_log (by decide) positive, zpow_add₀ (by norm_num)]
    exact_mod_cast reaches
  rw [scaleOf]
  rcases least.lt_or_eq with high | rfl
  · have := logAbove high
    omega
  · omega

/-- A fraction in units of a power of two is a fraction of natural numbers again. -/
theorem ratio_div_zpow
    (numerator denominator : Nat)
    (exponent : Int) :
    ((numerator * (powerOfTwo exponent).2 : Nat) : ℚ) /
        (denominator * (powerOfTwo exponent).1 : Nat) =
      numerator / denominator / 2 ^ exponent := by
  rw [← powerOfTwo_ratio]
  push_cast
  rw [div_div_div_eq]

/-- The test that decides between two scales, in rationals. -/
theorem mul_lt_mul_iff_log_lt
    {numerator denominator : Nat}
    (positive : 0 < numerator)
    (divisor : 0 < denominator)
    (exponent : Int) :
    numerator * (powerOfTwo exponent).2 < denominator * (powerOfTwo exponent).1 * 2 ^ 52 ↔
      Int.log 2 ((numerator : ℚ) / denominator) < exponent + 52 := by
  have divisorQ : (0 : ℚ) < denominator := by exact_mod_cast divisor
  have unit : (0 : ℚ) < (denominator * (powerOfTwo exponent).1 : Nat) := by
    exact_mod_cast Nat.mul_pos divisor (powerOfTwo_fst_pos exponent)
  rw [← Int.lt_zpow_iff_log_lt (by decide) (by positivity), zpow_add₀ (by norm_num),
    ← div_lt_iff₀' (by positivity), Nat.mul_comm _ (2 ^ 52)]
  push_cast
  rw [← ratio_div_zpow, div_lt_iff₀ unit]
  exact_mod_cast Iff.rfl

theorem roundingScale_eq
    {numerator denominator : Nat}
    (positive : 0 < numerator)
    (divisor : 0 < denominator) :
    roundingScale numerator denominator = scaleOf ((numerator : ℚ) / denominator) := by
  have divisorQ : (0 : ℚ) < denominator := by exact_mod_cast divisor
  have ratioPositive : (0 : ℚ) < (numerator : ℚ) / denominator := by positivity
  -- The two logarithms leave open which of two scales it is; the test decides.
  have below : (2 : ℚ) ^ ((Nat.log2 numerator : Int) - Nat.log2 denominator - 1) ≤
      numerator / denominator := by
    rw [le_div_iff₀ divisorQ]
    calc (2 : ℚ) ^ ((Nat.log2 numerator : Int) - Nat.log2 denominator - 1) * denominator
        ≤ 2 ^ ((Nat.log2 numerator : Int) - Nat.log2 denominator - 1) *
            2 ^ ((Nat.log2 denominator : Int) + 1) := by
          gcongr
          exact_mod_cast (Nat.lt_log2_self (n := denominator)).le
      _ = 2 ^ (Nat.log2 numerator : Int) := by
          rw [← zpow_add₀ (by norm_num)]
          congr 1
          omega
      _ ≤ numerator := by exact_mod_cast Nat.log2_self_le positive.ne'
  have above : (numerator : ℚ) / denominator <
      2 ^ ((Nat.log2 numerator : Int) - Nat.log2 denominator + 1) := by
    rw [div_lt_iff₀ divisorQ]
    calc (numerator : ℚ) < 2 ^ ((Nat.log2 numerator : Int) + 1) := by
          exact_mod_cast Nat.lt_log2_self (n := numerator)
      _ = 2 ^ ((Nat.log2 numerator : Int) - Nat.log2 denominator + 1) *
            2 ^ (Nat.log2 denominator : Int) := by
          rw [← zpow_add₀ (by norm_num)]
          congr 1
          omega
      _ ≤ 2 ^ ((Nat.log2 numerator : Int) - Nat.log2 denominator + 1) * denominator := by
          gcongr
          exact_mod_cast Nat.log2_self_le divisor.ne'
  have least : (Nat.log2 numerator : Int) - Nat.log2 denominator - 1 ≤
      Int.log 2 ((numerator : ℚ) / denominator) :=
    (Int.zpow_le_iff_le_log (by decide) ratioPositive).mp (by exact_mod_cast below)
  have greatest : Int.log 2 ((numerator : ℚ) / denominator) <
      (Nat.log2 numerator : Int) - Nat.log2 denominator + 1 :=
    (Int.lt_zpow_iff_log_lt (by decide) ratioPositive).mp (by exact_mod_cast above)
  have test := mul_lt_mul_iff_log_lt positive divisor
    ((Nat.log2 numerator : Int) - Nat.log2 denominator - 52)
  simp only [roundingScale, scaleOf, test]
  by_cases smaller : Int.log 2 ((numerator : ℚ) / denominator) <
      (Nat.log2 numerator : Int) - Nat.log2 denominator - 52 + 52
  · rw [if_pos smaller]
    congr 1
    omega
  · rw [if_neg smaller]
    congr 1
    omega

/-- A rounded fraction has the bits of an integer next to it, at the scale that it has. -/
theorem exists_roundRatio
    {numerator denominator : Nat}
    (positive : 0 < numerator)
    (divisor : 0 < denominator) :
    ∃ integer,
      IsRounded
        ((numerator : ℚ) / denominator / 2 ^ scaleOf ((numerator : ℚ) / denominator)) integer ∧
      roundRatio numerator denominator =
        min (magnitudeBits integer (scaleOf ((numerator : ℚ) / denominator))) infinityBits := by
  rw [← roundingScale_eq positive divisor, ← ratio_div_zpow, roundRatio, if_neg positive.ne']
  exact ⟨_, isRounded_roundQuotient _ (Nat.mul_pos divisor (powerOfTwo_fst_pos _)), rfl⟩

/-! ## Halfway to the neighbours -/

/-- Half the distance to the double below, in units of the last place. -/
def halfGapBelow (mantissa : Nat) (scale : Int) : ℚ :=
  if mantissa = 2 ^ 52 ∧ -1074 < scale then 1 / 4 else 1 / 2

/-- `x` lies between the points halfway to the neighbours of a double, or is one and it is even. -/
structure Near (mantissa : Nat) (scale : Int) (x : ℚ) : Prop where
  low : mantissa ≤ x / 2 ^ scale + halfGapBelow mantissa scale
  high : x / 2 ^ scale ≤ mantissa + 1 / 2
  even :
    mantissa = x / 2 ^ scale + halfGapBelow mantissa scale ∨ x / 2 ^ scale = mantissa + 1 / 2 →
      mantissa % 2 = 0

theorem halfGapBelow_le (mantissa : Nat) (scale : Int) :
    halfGapBelow mantissa scale ≤ 1 / 2 := by
  rw [halfGapBelow]
  split <;> norm_num

/-- Two pairs of a mantissa and a scale have the same bits only where one carries over. -/
theorem magnitudeBits_eq_iff
    {mantissa integer : Nat}
    {scale other : Int}
    (normalized : Normalized mantissa scale)
    (least : -1074 ≤ other)
    (small : integer ≤ 2 ^ 53)
    (full : -1074 < other → 2 ^ 52 ≤ integer) :
    magnitudeBits integer other = magnitudeBits mantissa scale ↔
      (other = scale ∧ integer = mantissa) ∨
        (other + 1 = scale ∧ integer = 2 ^ 53 ∧ mantissa = 2 ^ 52) := by
  obtain ⟨mantissaSmall, scaleLeast, mantissaFull⟩ := normalized
  rw [magnitudeBits, magnitudeBits]
  omega

theorem div_zpow_pred (x : ℚ) (scale : Int) : x / 2 ^ scale = 2 * (x / 2 ^ (scale + 1)) := by
  rw [zpow_add_one₀ (by norm_num)]
  field_simp

section Rounded

variable {mantissa integer : Nat} {scale : Int} {x : ℚ}

theorem IsRounded.le_of_scaleOf
    (rounded : IsRounded (x / 2 ^ scaleOf x) integer) :
    integer ≤ 2 ^ 53 := by
  have less : (integer : ℚ) < (2 ^ 53 : Nat) + 1 := by
    push_cast
    linarith [rounded.low, div_scaleOf_lt x]
  exact Nat.lt_succ_iff.mp (by exact_mod_cast less)

theorem IsRounded.ge_of_scaleOf
    (rounded : IsRounded (x / 2 ^ scaleOf x) integer)
    (positive : 0 < x)
    (high : -1074 < scaleOf x) :
    2 ^ 52 ≤ integer := by
  have less : ((2 ^ 52 : Nat) : ℚ) < integer + 1 := by
    push_cast
    linarith [rounded.high, le_div_scaleOf positive high]
  exact Nat.lt_succ_iff.mp (by exact_mod_cast less)

theorem near_of_isRounded
    (positive : 0 < x)
    (rounded : IsRounded (x / 2 ^ scaleOf x) mantissa) :
    Near mantissa (scaleOf x) x := by
  by_cases narrow : mantissa = 2 ^ 52 ∧ -1074 < scaleOf x
  · have above := le_div_scaleOf positive narrow.2
    have cast : (mantissa : ℚ) = 2 ^ 52 := by exact_mod_cast congrArg (Nat.cast (R := ℚ)) narrow.1
    refine ⟨?_, rounded.high, fun _ => by omega⟩
    rw [halfGapBelow, if_pos narrow, cast]
    linarith
  · have gap : halfGapBelow mantissa (scaleOf x) = 1 / 2 := if_neg narrow
    exact ⟨gap ▸ rounded.low, rounded.high, gap ▸ rounded.even⟩

theorem near_of_isRounded_carry
    (rounded : IsRounded (x / 2 ^ scaleOf x) (2 ^ 53)) :
    Near (2 ^ 52) (scaleOf x + 1) x := by
  have least : -1074 ≤ scaleOf x := le_max_right _ _
  have gap : halfGapBelow (2 ^ 52) (scaleOf x + 1) = 1 / 4 := if_pos ⟨rfl, by omega⟩
  have low := rounded.low
  have below := div_scaleOf_lt x
  rw [div_zpow_pred] at low below
  push_cast at low
  refine ⟨?_, ?_, fun _ => rfl⟩
  · rw [gap]
    push_cast
    linarith
  · push_cast
    linarith

/-- A number near a double has its scale, but for those just below a power of two. -/
theorem Near.isRounded
    (near : Near mantissa scale x)
    (normalized : Normalized mantissa scale)
    (positive : 0 < x) :
    (scaleOf x = scale ∧ IsRounded (x / 2 ^ scaleOf x) mantissa) ∨
      (scaleOf x + 1 = scale ∧ mantissa = 2 ^ 52 ∧ IsRounded (x / 2 ^ scaleOf x) (2 ^ 53)) := by
  have low := near.low
  have high := near.high
  have gap := halfGapBelow_le mantissa scale
  have small : (mantissa : ℚ) + 1 ≤ 2 ^ 53 := by exact_mod_cast normalized.small
  by_cases reaches : -1074 < scale → 2 ^ 52 ≤ x / 2 ^ scale
  · left
    have same : scaleOf x = scale :=
      scaleOf_eq positive normalized.least (by linarith) reaches
    refine ⟨same, ?_⟩
    rw [same]
    refine ⟨by linarith, high, ?_⟩
    rintro (edge | edge)
    · exact near.even (.inl (by linarith))
    · exact near.even (.inr edge)
  · right
    obtain ⟨higher, lower⟩ := not_forall.mp reaches
    rw [not_le] at lower
    have full : (2 : ℚ) ^ 52 ≤ mantissa := by exact_mod_cast normalized.full higher
    have least : mantissa = 2 ^ 52 := by
      have less : (mantissa : ℚ) < (2 ^ 52 : Nat) + 1 := by
        push_cast
        linarith
      have := normalized.full higher
      have : mantissa < 2 ^ 52 + 1 := by exact_mod_cast less
      omega
    have quarter : halfGapBelow mantissa scale = 1 / 4 := if_pos ⟨least, higher⟩
    have twice := div_zpow_pred x (scale - 1)
    rw [sub_add_cancel] at twice
    have below : scaleOf x = scale - 1 :=
      scaleOf_eq positive (by omega) (by linarith) fun _ => by linarith
    rw [below]
    refine ⟨by omega, least, ?_, ?_, fun _ => rfl⟩
    · push_cast
      linarith
    · push_cast
      linarith

end Rounded

/-- Only zero is near zero. -/
theorem near_zero_iff
    {mantissa : Nat}
    {scale : Int} :
    Near mantissa scale 0 ↔ mantissa = 0 := by
  constructor
  · intro near
    have low := near.low
    rw [zero_div, zero_add] at low
    have less : (mantissa : ℚ) < (1 : Nat) := by
      push_cast
      linarith [halfGapBelow_le mantissa scale]
    have : mantissa < 1 := by exact_mod_cast less
    omega
  · rintro rfl
    have gap : halfGapBelow 0 scale = 1 / 2 := if_neg (by omega)
    refine ⟨?_, ?_, fun _ => rfl⟩
    · rw [gap]
      norm_num
    · norm_num

/-! ## Which fractions round to a double -/

theorem roundRatio_le (numerator denominator : Nat) :
    roundRatio numerator denominator ≤ infinityBits := by
  rw [roundRatio]
  split
  · exact Nat.zero_le _
  · exact Nat.min_le_right _ _

/-- A fraction rounds to a finite double exactly when it is near it. -/
theorem ofMagnitude_roundRatio_eq_iff
    {number : Binary64}
    (finite : number.isFinite = true)
    (numerator : Nat)
    {denominator : Nat}
    (divisor : 0 < denominator) :
    ofMagnitude number.isNegative (roundRatio numerator denominator) = number ↔
      Near number.mantissa number.scale ((numerator : ℚ) / denominator) := by
  have normalized := number.normalized_of_fields
  have notInfinite := magnitudeBits_lt_infinityBits finite
  have signless : infinityBits < 2 ^ 63 := by decide
  rw [ofMagnitude_eq_iff (Nat.lt_of_le_of_lt (roundRatio_le _ _) signless)]
  by_cases zero : numerator = 0
  · have empty : magnitudeBits number.mantissa number.scale = 0 ↔ number.mantissa = 0 := by
      have full := normalized.full
      rw [magnitudeBits]
      omega
    rw [zero, roundRatio, if_pos rfl, Nat.cast_zero, zero_div, near_zero_iff, eq_comm, empty]
  · have positive : 0 < numerator := Nat.pos_of_ne_zero zero
    have ratioPositive : (0 : ℚ) < (numerator : ℚ) / denominator := by
      have : (0 : ℚ) < numerator := by exact_mod_cast positive
      have : (0 : ℚ) < denominator := by exact_mod_cast divisor
      positivity
    obtain ⟨integer, rounded, bits⟩ := exists_roundRatio positive divisor
    generalize (numerator : ℚ) / denominator = x at *
    have carried := magnitudeBits_eq_iff normalized (le_max_right _ _)
      rounded.le_of_scaleOf (rounded.ge_of_scaleOf ratioPositive)
    have unbounded : roundRatio numerator denominator =
          magnitudeBits number.mantissa number.scale ↔
        magnitudeBits integer (scaleOf x) = magnitudeBits number.mantissa number.scale := by
      omega
    rw [unbounded]
    refine carried.trans ⟨?_, fun near => ?_⟩
    · rintro (⟨scale, mantissa⟩ | ⟨scale, integer, mantissa⟩)
      · rw [← scale, ← mantissa]
        exact near_of_isRounded ratioPositive rounded
      · rw [← scale, mantissa]
        exact near_of_isRounded_carry (integer ▸ rounded)
    · rcases near.isRounded normalized ratioPositive with ⟨scale, same⟩ | ⟨scale, mantissa, carry⟩
      · exact .inl ⟨scale, rounded.unique same⟩
      · exact .inr ⟨scale, rounded.unique carry, mantissa⟩

end ContractGateway.Binary64
