import ContractGateway.Number.Shortest
import ContractGateway.Proofs.Number.Rounding
import Mathlib.Data.Nat.Digits.Lemmas

/-!
# Decimals in an interval

The search for a decimal in an interval looks at one grid of decimals after the other, the coarser
ones first. On each of them only the two decimals next to the middle of the interval matter: an
interval that contains any other one contains one of these, too, and prefers it.
-/

namespace ContractGateway

theorem ten_zpow_pos (exponent : Int) : (0 : ℚ) < 10 ^ exponent :=
  zpow_pos (by norm_num) exponent

theorem ten_pow_mul_zpow
    (power : Nat)
    {exponent total : Int}
    (sum : power + exponent = total) :
    (10 : ℚ) ^ power * 10 ^ exponent = 10 ^ total := by
  rw [← sum, zpow_add₀ (by norm_num), zpow_natCast]

namespace Decimal

/-- The number that a decimal stands for. -/
def value (decimal : Decimal) : ℚ := decimal.digits * 10 ^ decimal.exponent

theorem value_eq_div (decimal : Decimal) :
    decimal.value =
      (decimal.digits * 10 ^ decimal.exponent.toNat : Nat) /
        (10 ^ (-decimal.exponent).toNat : Nat) := by
  rw [value, ← Binary64.pow_toNat_div]
  push_cast
  rw [mul_div_assoc]

end Decimal

/-! ## The nearer of two numbers -/

/-- `x` is nearer to `target` than `y` is, or as near and not smaller. -/
def Preferred (target x y : ℚ) : Prop :=
  |x - target| < |y - target| ∨ (|x - target| = |y - target| ∧ y ≤ x)

namespace Preferred

variable {target x y z : ℚ}

theorem trans
    (first : Preferred target x y)
    (second : Preferred target y z) :
    Preferred target x z := by
  rcases first with nearer | ⟨near, least⟩
  · rcases second with nearer' | ⟨near', -⟩
    · exact .inl (nearer.trans nearer')
    · exact .inl (near' ▸ nearer)
  · rcases second with nearer' | ⟨near', least'⟩
    · exact .inl (near ▸ nearer')
    · exact .inr ⟨near.trans near', least'.trans least⟩

theorem antisymm
    (first : Preferred target x y)
    (second : Preferred target y x) :
    x = y := by
  rcases first with nearer | ⟨near, lower⟩
  · rcases second with nearer' | ⟨near', -⟩
    · exact absurd nearer' nearer.not_gt
    · exact absurd near' nearer.ne'
  · rcases second with nearer' | ⟨-, lower'⟩
    · exact absurd near nearer'.ne'
    · exact le_antisymm lower' lower

theorem of_le_of_le
    (upper : x ≤ target)
    (lower : y ≤ x) :
    Preferred target x y := by
  have distance : |x - target| ≤ |y - target| := by
    rw [abs_of_nonpos (by linarith), abs_of_nonpos (by linarith)]
    linarith
  exact distance.lt_or_eq.imp_right fun same => ⟨same, lower⟩

theorem of_ge_of_ge
    (lower : target ≤ x)
    (further : x ≤ y) :
    Preferred target x y := by
  rcases further.lt_or_eq with further | rfl
  · left
    rw [abs_of_nonneg (by linarith), abs_of_nonneg (by linarith)]
    linarith
  · exact .inr ⟨rfl, le_rfl⟩

theorem of_target : Preferred target target y := by
  rcases le_total y target with below | above
  · exact .of_le_of_le le_rfl below
  · exact .of_ge_of_ge le_rfl above

theorem of_closer_below
    (lower : x ≤ target)
    (closer : target - x < y - target) :
    Preferred target x y := by
  left
  rwa [abs_of_nonpos (by linarith), abs_of_nonneg (by linarith), neg_sub]

theorem of_closer_above
    (lower : y ≤ target)
    (upper : target ≤ x)
    (closer : x - target ≤ target - y) :
    Preferred target x y := by
  have distance : |x - target| ≤ |y - target| := by
    rwa [abs_of_nonneg (by linarith), abs_of_nonpos (by linarith), neg_sub]
  exact distance.lt_or_eq.imp_right fun same => ⟨same, lower.trans upper⟩

end Preferred

/-! ## Intervals -/

namespace Shortest.Interval

/-- The number in the interval that is to be written. -/
def middle (interval : Interval) : ℚ := (interval.value : ℚ) / interval.denominator

/-- A number lies between the ends of the interval, or is one and the interval has its ends. -/
structure Contains (interval : Interval) (x : ℚ) : Prop where
  low : interval.low ≤ x * interval.denominator
  high : x * interval.denominator ≤ interval.high
  ends :
    interval.low = x * interval.denominator ∨ x * interval.denominator = interval.high →
      interval.closed = true

/-- The interval reaches below its middle and above it. -/
structure Proper (interval : Interval) : Prop where
  divisor : 0 < interval.denominator
  below : interval.low < interval.value
  above : interval.value < interval.high

variable {interval : Interval}

theorem Proper.divisorQ (proper : interval.Proper) : (0 : ℚ) < interval.denominator := by
  exact_mod_cast proper.divisor

theorem Proper.contains_middle (proper : interval.Proper) :
    interval.Contains interval.middle := by
  have below : (interval.low : ℚ) < interval.value := by exact_mod_cast proper.below
  have above : (interval.value : ℚ) < interval.high := by exact_mod_cast proper.above
  have middle : interval.middle * interval.denominator = interval.value :=
    div_mul_cancel₀ _ proper.divisorQ.ne'
  constructor
  · rw [middle]
    exact below.le
  · rw [middle]
    exact above.le
  · rw [middle]
    rintro (low | high)
    · exact absurd low below.ne
    · exact absurd high above.ne

/-- What lies between two numbers of the interval is in it. -/
theorem Contains.between
    {first second x : ℚ}
    (firstIn : interval.Contains first)
    (secondIn : interval.Contains second)
    (lower : first ≤ x)
    (upper : x ≤ second) :
    interval.Contains x := by
  have lower' : first * interval.denominator ≤ x * interval.denominator := by gcongr
  have upper' : x * interval.denominator ≤ second * interval.denominator := by gcongr
  refine ⟨firstIn.low.trans lower', upper'.trans secondIn.high, ?_⟩
  rintro (low | high)
  · exact firstIn.ends (.inl (le_antisymm firstIn.low (low ▸ lower')))
  · exact secondIn.ends (.inr (le_antisymm secondIn.high (high ▸ upper')))

theorem contains_iff_of_closed
    (closed : interval.closed = true)
    (x : ℚ) :
    interval.Contains x ↔
      interval.low ≤ x * interval.denominator ∧ x * interval.denominator ≤ interval.high :=
  ⟨fun inside => ⟨inside.low, inside.high⟩, fun ⟨low, high⟩ => ⟨low, high, fun _ => closed⟩⟩

theorem contains_iff_of_open
    (isOpen : interval.closed = false)
    (x : ℚ) :
    interval.Contains x ↔
      interval.low < x * interval.denominator ∧ x * interval.denominator < interval.high := by
  constructor
  · intro inside
    have noEnd := mt inside.ends (by simp [isOpen])
    rw [not_or] at noEnd
    exact ⟨inside.low.lt_of_ne noEnd.1, inside.high.lt_of_ne noEnd.2⟩
  · rintro ⟨low, high⟩
    exact ⟨low.le, high.le, fun ends => absurd ends (not_or.mpr ⟨low.ne, high.ne⟩)⟩

/-- The test on natural numbers tells which decimals the interval contains. -/
theorem holds_iff (decimal : Decimal) :
    interval.holds decimal = true ↔ interval.Contains decimal.value := by
  have unit : (0 : ℚ) < (10 ^ (-decimal.exponent).toNat : Nat) := by positivity
  have point : decimal.value * interval.denominator =
      (decimal.digits * 10 ^ decimal.exponent.toNat * interval.denominator : Nat) /
        (10 ^ (-decimal.exponent).toNat : Nat) := by
    rw [Decimal.value_eq_div, Nat.cast_mul _ interval.denominator, div_mul_eq_mul_div]
  cases closed : interval.closed with
  | true =>
      rw [contains_iff_of_closed closed, point, le_div_iff₀ unit, div_le_iff₀ unit]
      simp only [holds, closed, if_true, Bool.and_eq_true, decide_eq_true_eq]
      exact_mod_cast Iff.rfl
  | false =>
      rw [contains_iff_of_open closed, point, lt_div_iff₀ unit, div_lt_iff₀ unit]
      simp only [holds, closed, Bool.false_eq_true, if_false, Bool.and_eq_true, decide_eq_true_eq]
      exact_mod_cast Iff.rfl

/-! ### Candidates -/

/-- A decimal of a grid is next to the middle, in the interval, and preferred to others in it. -/
structure IsNearest (interval : Interval) (exponent : Int) (decimal : Decimal) : Prop where
  exponent_eq : decimal.exponent = exponent
  next : decimal.value ≤ interval.middle + 10 ^ exponent
  inside : interval.Contains decimal.value
  preferred :
    ∀ multiple : Nat, interval.Contains (multiple * 10 ^ exponent) →
      Preferred interval.middle decimal.value (multiple * 10 ^ exponent)

/-- The middle in units of a grid is a fraction of natural numbers again. -/
theorem Proper.middle_eq
    (proper : interval.Proper)
    (exponent : Int) :
    interval.middle =
      ((interval.value * 10 ^ (-exponent).toNat : Nat) : ℚ) /
        (interval.denominator * 10 ^ exponent.toNat : Nat) * 10 ^ exponent := by
  have divisor := proper.divisorQ
  rw [middle, ← Binary64.pow_toNat_div]
  push_cast
  field_simp

/-- The decimals of a grid on both sides of the middle. -/
structure Neighbours (interval : Interval) (exponent : Int) (below above : Decimal) : Prop where
  below_exponent : below.exponent = exponent
  above_exponent : above.exponent = exponent
  digits : above.digits = below.digits + 1
  lower : below.value ≤ interval.middle
  upper : interval.middle < above.value

/-- The candidate is the preferred one of the two neighbours that the interval contains. -/
theorem Proper.candidate?_cases
    (proper : interval.Proper)
    (exponent : Int) :
    ∃ below above, Neighbours interval exponent below above ∧
      ((interval.candidate? exponent = some below ∧ interval.Contains below.value ∧
          (interval.Contains above.value → Preferred interval.middle below.value above.value)) ∨
        (interval.candidate? exponent = some above ∧ interval.Contains above.value ∧
          (interval.Contains below.value → Preferred interval.middle above.value below.value)) ∨
        (interval.candidate? exponent = none ∧
          ¬interval.Contains below.value ∧ ¬interval.Contains above.value)) := by
  have positive : 0 < interval.denominator * 10 ^ exponent.toNat :=
    Nat.mul_pos proper.divisor (by simp)
  have middle := proper.middle_eq exponent
  have unit := ten_zpow_pos exponent
  simp only [candidate?, ← holds_iff]
  generalize interval.value * 10 ^ (-exponent).toNat = point at *
  generalize interval.denominator * 10 ^ exponent.toNat = grid at *
  have half := Binary64.rest_lt_half_iff point positive
  have belowOne := Binary64.rest_lt_one point positive
  have nonnegative : (0 : ℚ) ≤ ((point % grid : Nat) : ℚ) / grid := by positivity
  rw [Binary64.div_eq_quotient_add_rest point positive] at middle
  generalize ((point % grid : Nat) : ℚ) / grid = rest at *
  have lower : Decimal.value ⟨point / grid, exponent⟩ ≤ interval.middle := by
    rw [Decimal.value, middle]
    nlinarith
  have upper : interval.middle < Decimal.value ⟨point / grid + 1, exponent⟩ := by
    rw [Decimal.value, middle]
    push_cast
    nlinarith
  refine ⟨⟨point / grid, exponent⟩, ⟨point / grid + 1, exponent⟩, ⟨rfl, rfl, rfl, lower, upper⟩, ?_⟩
  by_cases closer : 2 * (point % grid) < grid
  · have best : Preferred interval.middle (Decimal.value ⟨point / grid, exponent⟩)
        (Decimal.value ⟨point / grid + 1, exponent⟩) := by
      have small := half.mpr closer
      refine .of_closer_below lower ?_
      rw [Decimal.value, Decimal.value, middle]
      push_cast
      nlinarith
    cases interval.holds ⟨point / grid, exponent⟩ <;>
      cases interval.holds ⟨point / grid + 1, exponent⟩ <;> simp [closer, best]
  · have best : Preferred interval.middle (Decimal.value ⟨point / grid + 1, exponent⟩)
        (Decimal.value ⟨point / grid, exponent⟩) := by
      have large := not_lt.mp (mt half.mp closer)
      refine .of_closer_above lower upper.le ?_
      rw [Decimal.value, Decimal.value, middle]
      push_cast
      nlinarith
    cases interval.holds ⟨point / grid, exponent⟩ <;>
      cases interval.holds ⟨point / grid + 1, exponent⟩ <;> simp [closer, best]

namespace Neighbours

variable {exponent : Int} {below above : Decimal}

/-- What the interval contains of a grid makes it contain a neighbour that is preferred to it. -/
theorem preferred
    (neighbours : Neighbours interval exponent below above)
    (proper : interval.Proper)
    {multiple : Nat}
    (inside : interval.Contains (multiple * 10 ^ exponent)) :
    (interval.Contains below.value ∧
        Preferred interval.middle below.value (multiple * 10 ^ exponent)) ∨
      (interval.Contains above.value ∧
        Preferred interval.middle above.value (multiple * 10 ^ exponent)) := by
  obtain ⟨rfl, aboveExponent, digits, lower, upper⟩ := neighbours
  have unit := ten_zpow_pos below.exponent
  rcases Nat.lt_or_ge below.digits multiple with larger | smaller
  · right
    have further : above.value ≤ multiple * 10 ^ below.exponent := by
      rw [Decimal.value, aboveExponent, digits]
      gcongr
      exact larger
    exact ⟨proper.contains_middle.between inside upper.le further, .of_ge_of_ge upper.le further⟩
  · left
    have further : multiple * 10 ^ below.exponent ≤ below.value := by
      rw [Decimal.value]
      gcongr
    exact ⟨inside.between proper.contains_middle further lower, .of_le_of_le lower further⟩

theorem above_value_eq (neighbours : Neighbours interval exponent below above) :
    above.value = below.value + 10 ^ exponent := by
  rw [Decimal.value, Decimal.value, neighbours.above_exponent, neighbours.below_exponent,
    neighbours.digits]
  push_cast
  ring

end Neighbours

theorem Proper.isNearest_of_candidate?
    (proper : interval.Proper)
    {exponent : Int}
    {decimal : Decimal}
    (found : interval.candidate? exponent = some decimal) :
    interval.IsNearest exponent decimal := by
  obtain ⟨below, above, neighbours, cases⟩ := proper.candidate?_cases exponent
  have unit := ten_zpow_pos exponent
  have lower := neighbours.lower
  rcases cases with ⟨some, inside, best⟩ | ⟨some, inside, best⟩ | ⟨none, -⟩
  · cases some.symm.trans found
    refine ⟨neighbours.below_exponent, by linarith, inside, fun multiple contained => ?_⟩
    rcases neighbours.preferred proper contained with ⟨-, better⟩ | ⟨other, better⟩
    · exact better
    · exact (best other).trans better
  · cases some.symm.trans found
    refine ⟨neighbours.above_exponent, ?_, inside, fun multiple contained => ?_⟩
    · rw [neighbours.above_value_eq]
      linarith
    · rcases neighbours.preferred proper contained with ⟨other, better⟩ | ⟨-, better⟩
      · exact (best other).trans better
      · exact better
  · cases none.symm.trans found

/-- Where there is no candidate, the interval contains nothing of the grid. -/
theorem Proper.not_contains_of_candidate?
    (proper : interval.Proper)
    {exponent : Int}
    (missing : interval.candidate? exponent = none)
    (multiple : Nat) :
    ¬interval.Contains (multiple * 10 ^ exponent) := by
  intro contained
  obtain ⟨below, above, neighbours, cases⟩ := proper.candidate?_cases exponent
  rcases cases with ⟨some, -⟩ | ⟨some, -⟩ | ⟨-, notBelow, notAbove⟩
  · cases missing.symm.trans some
  · cases missing.symm.trans some
  · rcases neighbours.preferred proper contained with ⟨inside, -⟩ | ⟨inside, -⟩
    · exact notBelow inside
    · exact notAbove inside

/-! ### The search -/

/-- The search ends with the first count of digits that has a candidate. -/
theorem exists_candidate?_of_search
    (magnitude : Int)
    {fuel count last : Nat}
    (start : count ≤ last)
    (reached : last < count + fuel)
    (present : interval.candidate? (magnitude - last) ≠ none) :
    ∃ digits : Nat, count ≤ digits ∧ digits ≤ last ∧
      interval.candidate? (magnitude - digits) = some (interval.search magnitude fuel count) ∧
      ∀ fewer : Nat, count ≤ fewer → fewer < digits →
        interval.candidate? (magnitude - fewer) = none := by
  induction fuel generalizing count with
  | zero => omega
  | succ fuel inductionHypothesis =>
      rw [search]
      cases candidate : interval.candidate? (magnitude - count) with
      | some decimal =>
          exact
            ⟨count, le_rfl, start, candidate,
              fun fewer least less => absurd less (not_lt.mpr least)⟩
      | none =>
          have later : count ≠ last := by
            rintro rfl
            exact present candidate
          obtain ⟨digits, least, greatest, found, missing⟩ :=
            inductionHypothesis (show count + 1 ≤ last by omega) (by omega)
          refine ⟨digits, by omega, greatest, found, fun fewer atLeast less => ?_⟩
          rcases atLeast.lt_or_eq with further | rfl
          · exact missing fewer further less
          · exact candidate

theorem leadingZeros_spec
    {value denominator fuel : Nat}
    (small : value < denominator)
    (enough : denominator ≤ value * 10 ^ fuel) :
    value * 10 ^ leadingZeros value denominator fuel < denominator ∧
      denominator ≤ value * 10 ^ (leadingZeros value denominator fuel + 1) := by
  induction fuel generalizing value with
  | zero => omega
  | succ fuel inductionHypothesis =>
      rw [leadingZeros]
      by_cases smaller : value * 10 < denominator
      · rw [if_pos smaller]
        have rest := inductionHypothesis smaller (by rwa [Nat.mul_assoc, ← Nat.pow_succ'])
        rwa [Nat.mul_assoc, ← Nat.pow_succ', Nat.mul_assoc, ← Nat.pow_succ'] at rest
      · rw [if_neg smaller]
        exact ⟨by omega, by omega⟩

theorem exists_length_toDigits
    {number : Nat}
    (positive : 0 < number) :
    ∃ last, (Nat.toDigits 10 number).length = last + 1 ∧
      10 ^ last ≤ number ∧ number < 10 ^ (last + 1) := by
  obtain ⟨last, length⟩ := Nat.exists_eq_succ_of_ne_zero
    (Nat.length_toDigits_pos (b := 10) (n := number)).ne'
  refine ⟨last, length, ?_, ?_⟩
  · rcases Nat.eq_zero_or_pos last with rfl | more
    · exact positive
    · have notShorter := mt (Nat.length_toDigits_le_iff (by decide) more).mpr
        (show ¬(Nat.toDigits 10 number).length ≤ last by omega)
      exact not_lt.mp notShorter
  · exact (Nat.length_toDigits_le_iff (by decide) (Nat.succ_pos last)).mp length.le

/-- The middle lies in the decade of its magnitude. -/
theorem magnitude_spec
    (divisor : 0 < interval.denominator)
    (enough : interval.denominator ≤ interval.value * 10 ^ 400) :
    10 ^ (interval.magnitude - 1) ≤ interval.middle ∧
      interval.middle < 10 ^ interval.magnitude := by
  have divisorQ : (0 : ℚ) < interval.denominator := by exact_mod_cast divisor
  rw [magnitude, middle, le_div_iff₀ divisorQ, div_lt_iff₀ divisorQ]
  by_cases whole : interval.denominator ≤ interval.value
  · obtain ⟨last, length, least, less⟩ := exists_length_toDigits (Nat.div_pos whole divisor)
    have power : ((last + 1 : Nat) : Int) - 1 = last := by omega
    rw [if_pos whole, length, power, zpow_natCast, zpow_natCast]
    constructor
    · exact_mod_cast (Nat.le_div_iff_mul_le divisor).mp least
    · exact_mod_cast (Nat.div_lt_iff_lt_mul divisor).mp less
  · obtain ⟨below, above⟩ := leadingZeros_spec (not_le.mp whole) enough
    rw [if_neg whole]
    generalize leadingZeros interval.value interval.denominator 400 = zeros at *
    have power : -(zeros : Int) - 1 = -((zeros + 1 : Nat) : Int) := by omega
    rw [power, zpow_neg, zpow_neg, zpow_natCast, zpow_natCast, inv_mul_le_iff₀ (by positivity),
      lt_inv_mul_iff₀ (by positivity), mul_comm, mul_comm (10 ^ zeros : ℚ)]
    exact ⟨by exact_mod_cast above, by exact_mod_cast below⟩

theorem exists_contains_multiple
    (proper : interval.Proper)
    {step : ℚ}
    (positive : 0 < step)
    (wide : interval.low + step * interval.denominator < interval.high) :
    ∃ multiple : Nat, interval.Contains (multiple * step) := by
  have divisor := proper.divisorQ
  have scaled : 0 < step * interval.denominator := by positivity
  have lowNonneg : (0 : ℚ) ≤ interval.low := Nat.cast_nonneg _
  -- The last multiple below the upper end is above the lower one.
  obtain ⟨multiple, next⟩ : ∃ multiple, ⌈interval.high / (step * interval.denominator)⌉₊ =
      multiple + 1 :=
    Nat.exists_eq_succ_of_ne_zero (Nat.ceil_pos.mpr (by apply div_pos <;> linarith)).ne'
  have reaches := Nat.le_ceil ((interval.high : ℚ) / (step * interval.denominator))
  have less := Nat.ceil_lt_add_one
    (show (0 : ℚ) ≤ interval.high / (step * interval.denominator) by positivity)
  rw [next] at reaches less
  push_cast at reaches less
  rw [div_le_iff₀ scaled] at reaches
  have below : (multiple : ℚ) * (step * interval.denominator) < interval.high := by
    rw [← lt_div_iff₀ scaled]
    linarith
  have low : interval.low < multiple * step * interval.denominator := by linarith
  have high : multiple * step * interval.denominator < interval.high := by linarith
  exact ⟨multiple, low.le, high.le, fun ends => absurd ends (not_or.mpr ⟨low.ne, high.ne⟩)⟩

end Shortest.Interval

end ContractGateway
