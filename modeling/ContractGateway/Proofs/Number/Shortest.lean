import ContractGateway.Proofs.Number.Intervals

/-!
# The shortest decimal of a double

The decimals that read back as a double are those between the points halfway to its neighbours.
Seventeen digits always suffice for one. A decimal with fewer digits than the one that is found
either lies on a grid that was searched or is further away than a power of ten that lies on one.
-/

namespace ContractGateway

namespace Decimal

/-- How many digits a decimal has. -/
def size (decimal : Decimal) : Nat := (Nat.digits 10 decimal.digits).length

/-- A decimal is rounded to a double of the same sign as `number`, and that is `number`. -/
def ReadsBack (decimal : Decimal) (number : Binary64) : Prop :=
  Binary64.ofMagnitude number.isNegative
    (Binary64.roundRatio
      (decimal.digits * 10 ^ decimal.exponent.toNat) (10 ^ (-decimal.exponent).toNat)) = number

theorem readsBack_iff
    {number : Binary64}
    (finite : number.isFinite = true)
    (decimal : Decimal) :
    decimal.ReadsBack number ↔
      Binary64.Near number.mantissa number.scale decimal.value := by
  rw [ReadsBack, Binary64.ofMagnitude_roundRatio_eq_iff finite _ (by positivity), value_eq_div]

theorem size_le_iff (decimal : Decimal) (count : Nat) :
    decimal.size ≤ count ↔ decimal.digits < 10 ^ count :=
  Nat.digits_length_le_iff (by decide) decimal.digits

/-- A decimal lies on every finer grid. -/
theorem exists_multiple
    (decimal : Decimal)
    {exponent : Int}
    (coarse : exponent ≤ decimal.exponent) :
    ∃ multiple : Nat, (multiple : ℚ) * 10 ^ exponent = decimal.value := by
  refine ⟨decimal.digits * 10 ^ (decimal.exponent - exponent).toNat, ?_⟩
  push_cast
  rw [value, mul_assoc, ten_pow_mul_zpow _ (show _ = decimal.exponent by omega)]

theorem value_le
    (decimal : Decimal)
    {count : Nat}
    {magnitude : Int}
    (few : decimal.digits < 10 ^ count)
    (small : count + decimal.exponent ≤ magnitude) :
    decimal.value ≤ 10 ^ magnitude :=
  calc decimal.value ≤ (10 ^ count : Nat) * 10 ^ decimal.exponent := by
        rw [value]
        gcongr
    _ = 10 ^ (count + decimal.exponent) := by
        push_cast
        exact ten_pow_mul_zpow count rfl
    _ ≤ 10 ^ magnitude := zpow_le_zpow_right₀ (by norm_num) small

/-! ### Trailing zeros -/

@[simp] theorem value_dropTrailingZeros
    (fuel : Nat)
    (decimal : Decimal) :
    (dropTrailingZeros fuel decimal).value = decimal.value := by
  induction fuel generalizing decimal with
  | zero => rfl
  | succ fuel inductionHypothesis =>
      rw [dropTrailingZeros]
      split
      case isFalse => rfl
      case isTrue trailing =>
        have digits : (decimal.digits : ℚ) = (decimal.digits / 10 : Nat) * 10 := by
          exact_mod_cast (Nat.div_mul_cancel (Nat.dvd_of_mod_eq_zero trailing.2)).symm
        rw [inductionHypothesis, value, value, digits, zpow_add_one₀ (by norm_num)]
        ring

theorem digits_dropTrailingZeros_le
    (fuel : Nat)
    (decimal : Decimal) :
    (dropTrailingZeros fuel decimal).digits ≤ decimal.digits := by
  induction fuel generalizing decimal with
  | zero => rfl
  | succ fuel inductionHypothesis =>
      rw [dropTrailingZeros]
      split
      case isFalse => rfl
      case isTrue => exact (inductionHypothesis _).trans (Nat.div_le_self _ _)

/-- With a step for each digit no trailing zero remains. -/
theorem digits_dropTrailingZeros_mod
    {fuel count : Nat}
    {decimal : Decimal}
    (nonzero : decimal.digits ≠ 0)
    (short : decimal.digits ≤ 10 ^ count)
    (enough : count < fuel) :
    (dropTrailingZeros fuel decimal).digits % 10 ≠ 0 := by
  have small : decimal.digits < 10 ^ fuel :=
    short.trans_lt (Nat.pow_lt_pow_right (by decide) enough)
  clear short enough
  induction fuel generalizing decimal with
  | zero => omega
  | succ fuel inductionHypothesis =>
      rw [dropTrailingZeros]
      split
      case isFalse notTrailing => exact fun last => notTrailing ⟨nonzero, last⟩
      case isTrue trailing =>
        have shorter : decimal.digits / 10 < 10 ^ fuel := by omega
        exact inductionHypothesis (show decimal.digits / 10 ≠ 0 by omega) shorter

end Decimal

/-- A decimal that reads back as a double, with as few digits as any, and preferred to others. -/
structure IsShortest (number : Binary64) (decimal : Decimal) : Prop where
  readsBack : decimal.ReadsBack number
  size_le : ∀ other : Decimal, other.ReadsBack number → decimal.size ≤ other.size
  preferred :
    ∀ other : Decimal, other.ReadsBack number → other.size ≤ decimal.size →
      Preferred number.magnitude decimal.value other.value

/-- Only one number has the shortest decimals of a double. -/
theorem IsShortest.value_unique
    {number : Binary64}
    {first second : Decimal}
    (firstShortest : IsShortest number first)
    (secondShortest : IsShortest number second) :
    first.value = second.value :=
  Preferred.antisymm
    (firstShortest.preferred second secondShortest.readsBack
      (secondShortest.size_le first firstShortest.readsBack))
    (secondShortest.preferred first firstShortest.readsBack
      (firstShortest.size_le second secondShortest.readsBack))

/-! ## The interval of a double -/

namespace Shortest

open Binary64 (Near halfGapBelow powerOfTwo)

theorem mantissa_pos
    {number : Binary64}
    (nonzero : number.isZero = false) :
    0 < number.mantissa := by
  simp only [Binary64.isZero, decide_eq_false_iff_not] at nonzero
  rw [Binary64.mantissa]
  split <;> omega

/-- The exponent and fraction fields tell the doubles that are nearer to the one below. -/
theorem narrow_iff (number : Binary64) :
    (number.fraction = 0 ∧ 1 < number.exponentField) ↔
      (number.mantissa = 2 ^ 52 ∧ -1074 < number.scale) := by
  have fraction := number.fraction_lt
  rw [Binary64.mantissa, Binary64.scale]
  split <;> omega

variable {number : Binary64}

theorem up_pos (number : Binary64) : (0 : ℚ) < (powerOfTwo (number.scale - 2)).1 := by
  exact_mod_cast Binary64.powerOfTwo_fst_pos _

theorem down_ne_zero (number : Binary64) : ((powerOfTwo (number.scale - 2)).2 : ℚ) ≠ 0 := by
  exact_mod_cast (Binary64.powerOfTwo_snd_pos _).ne'

/-- The unit of the interval: a quarter of the last place. -/
theorem quarter_eq (number : Binary64) :
    ((powerOfTwo (number.scale - 2)).1 : ℚ) =
      2 ^ number.scale / 4 * (powerOfTwo (number.scale - 2)).2 := by
  have ratio := Binary64.powerOfTwo_ratio (number.scale - 2)
  rw [div_eq_iff (down_ne_zero number), zpow_sub₀ (by norm_num)] at ratio
  rw [ratio]
  norm_num

theorem low_around
    (nonzero : number.isZero = false) :
    ((Interval.around number).low : ℚ) =
      4 * (number.mantissa - halfGapBelow number.mantissa number.scale) *
        (powerOfTwo (number.scale - 2)).1 := by
  have positive := mantissa_pos nonzero
  simp only [Interval.around, halfGapBelow, narrow_iff]
  split
  · push_cast [show 1 ≤ 4 * number.mantissa by omega]
    ring
  · push_cast [show 2 ≤ 4 * number.mantissa by omega]
    ring

theorem high_around (number : Binary64) :
    ((Interval.around number).high : ℚ) =
      4 * (number.mantissa + 1 / 2) * (powerOfTwo (number.scale - 2)).1 := by
  simp only [Interval.around]
  push_cast
  ring

/-- The ends of the interval are the points halfway to the neighbours of the double. -/
theorem contains_around_iff
    (nonzero : number.isZero = false)
    (x : ℚ) :
    (Interval.around number).Contains x ↔ Near number.mantissa number.scale x := by
  have low := low_around nonzero
  have high := high_around number
  have up := up_pos number
  have point : x * (Interval.around number).denominator =
      4 * (x / 2 ^ number.scale) * (powerOfTwo (number.scale - 2)).1 := by
    have unit := Binary64.two_zpow_pos number.scale
    rw [quarter_eq, Interval.around]
    field_simp
  have closed : (Interval.around number).closed = true ↔ number.mantissa % 2 = 0 := by
    simp [Interval.around]
  constructor
  · rintro ⟨least, greatest, ends⟩
    rw [low, point] at least ends
    rw [high, point] at greatest
    rw [high, closed] at ends
    refine ⟨by nlinarith, by nlinarith, fun edge => ends ?_⟩
    rcases edge with edge | edge
    · left
      rw [edge]
      ring
    · right
      rw [edge]
  · rintro ⟨least, greatest, even⟩
    refine ⟨?_, ?_, fun edge => closed.mpr (even ?_)⟩
    · rw [low, point]
      gcongr
      linarith
    · rw [high, point]
      gcongr
    · rw [low, high, point, mul_left_inj' up.ne', mul_left_inj' up.ne'] at edge
      exact edge.imp (fun edge => by linarith) (fun edge => by linarith)

theorem middle_around (number : Binary64) :
    (Interval.around number).middle = number.magnitude := by
  have down := down_ne_zero number
  simp only [Interval.middle, Interval.around]
  push_cast
  rw [quarter_eq, Binary64.magnitude]
  field_simp

theorem proper_around (nonzero : number.isZero = false) : (Interval.around number).Proper := by
  have positive := mantissa_pos nonzero
  have up := Binary64.powerOfTwo_fst_pos (number.scale - 2)
  refine ⟨Binary64.powerOfTwo_snd_pos _, ?_, ?_⟩
  · simp only [Interval.around]
    refine Nat.mul_lt_mul_of_pos_right ?_ up
    split <;> omega
  · simp only [Interval.around]
    exact Nat.mul_lt_mul_of_pos_right (by omega) up

/-- The interval is wider than the last of seventeen digits. -/
theorem value_around_lt
    (nonzero : number.isZero = false) :
    ((Interval.around number).value : ℚ) <
      ((Interval.around number).high - (Interval.around number).low) * 10 ^ 16 := by
  have up := up_pos number
  have small : (number.mantissa : ℚ) < 2 ^ 53 := by exact_mod_cast number.normalized_of_fields.small
  have wide : (number.mantissa : ℚ) <
      (halfGapBelow number.mantissa number.scale + 1 / 2) * 10 ^ 16 := by
    rw [halfGapBelow]
    split
    case isTrue narrow =>
      rw [narrow.1]
      norm_num
    case isFalse => linarith
  have value : ((Interval.around number).value : ℚ) =
      4 * number.mantissa * (powerOfTwo (number.scale - 2)).1 := by
    simp only [Interval.around]
    push_cast
    ring
  rw [value, high_around, low_around nonzero]
  nlinarith

theorem two_pow_le_ten_pow
    {exponent fuel : Nat}
    (small : exponent ≤ 3 * fuel) :
    2 ^ exponent ≤ 10 ^ fuel :=
  calc 2 ^ exponent ≤ 2 ^ (3 * fuel) := Nat.pow_le_pow_right (by decide) small
    _ = (2 ^ 3) ^ fuel := Nat.pow_mul 2 3 fuel
    _ ≤ 10 ^ fuel := Nat.pow_le_pow_left (by decide) fuel

theorem denominator_around_le
    (nonzero : number.isZero = false) :
    (Interval.around number).denominator ≤ (Interval.around number).value * 10 ^ 400 := by
  have positive : 0 < (Interval.around number).value :=
    Nat.lt_of_le_of_lt (Nat.zero_le _) (proper_around nonzero).below
  have least := number.normalized_of_fields.least
  calc (Interval.around number).denominator = 2 ^ (-(number.scale - 2)).toNat := rfl
    _ ≤ 10 ^ 400 := two_pow_le_ten_pow (by omega)
    _ ≤ (Interval.around number).value * 10 ^ 400 := Nat.le_mul_of_pos_left _ positive

/-- The double lies in the decade of the magnitude of its interval. -/
theorem decade_around (nonzero : number.isZero = false) :
    10 ^ ((Interval.around number).magnitude - 1) ≤ number.magnitude ∧
      number.magnitude < 10 ^ (Interval.around number).magnitude := by
  rw [← middle_around]
  exact Interval.magnitude_spec (proper_around nonzero).divisor (denominator_around_le nonzero)

/-- Seventeen digits are always enough. -/
theorem exists_contains_seventeen (nonzero : number.isZero = false) :
    ∃ multiple : Nat,
      (Interval.around number).Contains
        (multiple * 10 ^ ((Interval.around number).magnitude - 17)) := by
  have proper := proper_around nonzero
  have least := (decade_around nonzero).1
  have wide := value_around_lt nonzero
  refine Interval.exists_contains_multiple proper (ten_zpow_pos _) ?_
  have step : (10 : ℚ) ^ ((Interval.around number).magnitude - 17) * 10 ^ 16 =
      10 ^ ((Interval.around number).magnitude - 1) := by
    rw [mul_comm]
    exact ten_pow_mul_zpow 16 (by omega)
  rw [← middle_around, ← step, Interval.middle, le_div_iff₀ proper.divisorQ] at least
  nlinarith

/-! ### The decimal that is written -/

/-- A decimal that reads back has one on the grid for its count of digits preferred to it. -/
theorem exists_multiple_of_digits
    (nonzero : number.isZero = false)
    {other : Decimal}
    (inside : (Interval.around number).Contains other.value)
    {count : Nat}
    (few : other.digits < 10 ^ count)
    (some : 1 ≤ count) :
    ∃ multiple : Nat,
      (Interval.around number).Contains
          (multiple * 10 ^ ((Interval.around number).magnitude - count)) ∧
        Preferred number.magnitude
          (multiple * 10 ^ ((Interval.around number).magnitude - count)) other.value := by
  have proper := proper_around nonzero
  have least := (decade_around nonzero).1
  generalize (Interval.around number).magnitude = magnitude at *
  by_cases coarse : magnitude - count ≤ other.exponent
  · obtain ⟨multiple, same⟩ := other.exists_multiple coarse
    exact ⟨multiple, same ▸ inside, .inr ⟨by rw [same], same.ge⟩⟩
  · -- It is so small that the power of ten below the double is nearer.
    have power : ((10 ^ (count - 1) : Nat) : ℚ) * 10 ^ (magnitude - count) =
        10 ^ (magnitude - 1) := by
      push_cast
      exact ten_pow_mul_zpow (count - 1) (by omega)
    have below : other.value ≤ 10 ^ (magnitude - 1) := other.value_le few (by omega)
    refine ⟨10 ^ (count - 1), ?_, ?_⟩
    · rw [power]
      exact inside.between (middle_around number ▸ proper.contains_middle) below least
    · rw [power]
      exact .of_le_of_le least below

theorem digits_ne_zero
    (nonzero : number.isZero = false)
    {found : Decimal}
    (inside : (Interval.around number).Contains found.value) :
    found.digits ≠ 0 := by
  intro empty
  have nothing : found.value = 0 := by rw [Decimal.value, empty, Nat.cast_zero, zero_mul]
  rw [nothing, contains_around_iff nonzero, Binary64.near_zero_iff] at inside
  exact absurd inside (mantissa_pos nonzero).ne'

/-- A candidate has as many digits as its grid allows, or is the next power of ten. -/
theorem digits_le_of_isNearest
    (nonzero : number.isZero = false)
    {found : Decimal}
    {count : Nat}
    (nearest :
      (Interval.around number).IsNearest ((Interval.around number).magnitude - count) found) :
    found.digits ≤ 10 ^ count := by
  have unit := ten_zpow_pos ((Interval.around number).magnitude - count)
  have decade : (10 : ℚ) ^ (Interval.around number).magnitude =
      10 ^ count * 10 ^ ((Interval.around number).magnitude - count) :=
    (ten_pow_mul_zpow count (by omega)).symm
  have less := (decade_around nonzero).2
  have next := nearest.next
  rw [middle_around, Decimal.value, nearest.exponent_eq] at next
  have bounded : (found.digits : ℚ) < (10 ^ count : Nat) + 1 := by
    push_cast
    nlinarith
  exact Nat.lt_succ_iff.mp (by exact_mod_cast bounded)

/-- The decimal that is written was found on the first grid that the interval meets. -/
structure IsWritten (number : Binary64) (count : Nat) : Prop where
  positive : 1 ≤ count
  digits_lt : (decimal number).digits < 10 ^ count
  last : (decimal number).digits % 10 ≠ 0
  inside : (Interval.around number).Contains (decimal number).value
  preferred :
    ∀ multiple : Nat,
      (Interval.around number).Contains
          (multiple * 10 ^ ((Interval.around number).magnitude - count)) →
        Preferred number.magnitude (decimal number).value
          (multiple * 10 ^ ((Interval.around number).magnitude - count))
  missing :
    ∀ fewer : Nat, 1 ≤ fewer → fewer < count → ∀ multiple : Nat,
      ¬(Interval.around number).Contains
        (multiple * 10 ^ ((Interval.around number).magnitude - fewer))

theorem isWritten_of_isNearest
    (nonzero : number.isZero = false)
    {found : Decimal}
    {count : Nat}
    (written : decimal number = found.dropTrailingZeros 400)
    (least : 1 ≤ count)
    (greatest : count ≤ 17)
    (nearest :
      (Interval.around number).IsNearest ((Interval.around number).magnitude - count) found)
    (missing :
      ∀ fewer : Nat, 1 ≤ fewer → fewer < count → ∀ multiple : Nat,
        ¬(Interval.around number).Contains
          (multiple * 10 ^ ((Interval.around number).magnitude - fewer))) :
    IsWritten number count := by
  have short := digits_le_of_isNearest nonzero nearest
  have value : (decimal number).value = found.value := by
    rw [written, Decimal.value_dropTrailingZeros]
  have last : (decimal number).digits % 10 ≠ 0 := by
    rw [written]
    exact Decimal.digits_dropTrailingZeros_mod
      (digits_ne_zero nonzero nearest.inside) short (by omega)
  have shorter : (decimal number).digits ≤ 10 ^ count := by
    rw [written]
    exact (Decimal.digits_dropTrailingZeros_le 400 found).trans short
  -- The next power of ten has trailing zeros, which are gone.
  have notPower : (decimal number).digits ≠ 10 ^ count := by
    intro same
    rw [same] at last
    exact last (Nat.mod_eq_zero_of_dvd (dvd_pow_self 10 (by omega)))
  refine ⟨least, shorter.lt_of_ne notPower, last, value ▸ nearest.inside, ?_, missing⟩
  intro multiple contained
  rw [value, ← middle_around]
  exact nearest.preferred multiple contained

theorem exists_isWritten (nonzero : number.isZero = false) :
    ∃ count, IsWritten number count := by
  have proper := proper_around nonzero
  obtain ⟨multiple, inside⟩ := exists_contains_seventeen nonzero
  have present : (Interval.around number).candidate?
      ((Interval.around number).magnitude - (17 : Nat)) ≠ none :=
    fun missing => proper.not_contains_of_candidate? missing multiple inside
  obtain ⟨count, least, greatest, found, missing⟩ :=
    Interval.exists_candidate?_of_search (Interval.around number).magnitude
      (show 1 ≤ 17 by decide) (show 17 < 1 + 17 by decide) present
  exact
    ⟨count,
      isWritten_of_isNearest nonzero rfl least greatest (proper.isNearest_of_candidate? found)
        fun fewer some less => proper.not_contains_of_candidate? (missing fewer some less)⟩

theorem digits_decimal_mod (nonzero : number.isZero = false) :
    (decimal number).digits % 10 ≠ 0 := by
  obtain ⟨count, written⟩ := exists_isWritten nonzero
  exact written.last

/-- No decimal that reads back as the double has fewer digits than its grid has. -/
theorem IsWritten.le_size
    {count : Nat}
    (written : IsWritten number count)
    (nonzero : number.isZero = false)
    {other : Decimal}
    (inside : (Interval.around number).Contains other.value) :
    count ≤ other.size := by
  have few := (other.size_le_iff other.size).mp le_rfl
  have positive : 1 ≤ other.size := by
    refine Nat.one_le_iff_ne_zero.mpr fun empty => digits_ne_zero nonzero inside ?_
    rw [empty] at few
    omega
  obtain ⟨multiple, contained, -⟩ := exists_multiple_of_digits nonzero inside few positive
  exact not_lt.mp fun less => written.missing other.size positive less multiple contained

/-- The decimal that is written is the shortest one. -/
theorem isShortest_decimal
    (finite : number.isFinite = true)
    (nonzero : number.isZero = false) :
    IsShortest number (decimal number) := by
  obtain ⟨count, written⟩ := exists_isWritten nonzero
  have size : (decimal number).size ≤ count :=
    ((decimal number).size_le_iff count).mpr written.digits_lt
  have reads (other : Decimal) :
      other.ReadsBack number ↔ (Interval.around number).Contains other.value :=
    (Decimal.readsBack_iff finite other).trans (contains_around_iff nonzero _).symm
  refine ⟨(reads _).mpr written.inside, ?_, ?_⟩
  · intro other readsBack
    exact size.trans (written.le_size nonzero ((reads other).mp readsBack))
  · intro other readsBack shorter
    have few := (other.size_le_iff count).mp (shorter.trans size)
    obtain ⟨multiple, contained, better⟩ :=
      exists_multiple_of_digits nonzero ((reads other).mp readsBack) few written.positive
    exact (written.preferred multiple contained).trans better

end Shortest

end ContractGateway
