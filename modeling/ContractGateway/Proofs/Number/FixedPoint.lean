import ContractGateway.HostUnit
import ContractGateway.Proofs.Number.Units

/-!
# Ratios as fixed-point words

A ratio is written as the word for exactly the number that its shortest text stands for, or it is
refused. Nothing is cut off, neither behind the last decimal place nor beyond the largest word. This
holds with every reader of units.
-/

namespace ContractGateway

/-- `shortest` is what the shortest text that reads back as a number stands for. -/
structure HasShortestText (number : Binary64) (shortest : ℚ) : Prop where
  text : DecimalText.value? number.toText = some shortest
  /-- There is a shortest decimal. -/
  exists_shortest : ∃ decimal, IsShortest number decimal
  /-- Every shortest decimal stands for the same, up to the sign. -/
  shown :
    ∀ decimal, IsShortest number decimal →
      shortest = if number.isNegative = true then -decimal.value else decimal.value

/-- What the text of a finite number stands for. -/
def Binary64.signedValue (number : Binary64) : ℚ :=
  if number.isNegative = true then -number.written.value else number.written.value

theorem hasShortestText_iff
    (number : Binary64)
    (shortest : ℚ) :
    HasShortestText number shortest ↔
      number.isFinite = true ∧ shortest = number.signedValue := by
  constructor
  · intro hasText
    have text := hasText.text
    cases finite : number.isFinite with
    | false =>
        rw [Binary64.value?_toText_of_not_isFinite finite] at text
        cases text
    | true => exact ⟨rfl, Option.some.inj (text.symm.trans (Binary64.value?_toText finite))⟩
  · rintro ⟨finite, rfl⟩
    have written := Binary64.isShortest_written finite
    refine ⟨Binary64.value?_toText finite, ⟨number.written, written⟩, fun decimal isShortest => ?_⟩
    rw [isShortest.value_unique written]
    rfl

theorem signedValue_of_notBelow
    {number : Binary64}
    (notBelow : number.isNegative = true → number.isZero = true) :
    number.signedValue = number.written.value := by
  rw [Binary64.signedValue]
  split
  case isTrue negative => simp [Binary64.written, notBelow negative, Decimal.value]
  case isFalse => rfl

/-- Only zero is negative without being below zero. -/
theorem isZero_of_signedValue_nonneg
    {number : Binary64}
    (nonnegative : 0 ≤ number.signedValue)
    (negative : number.isNegative = true) :
    number.isZero = true := by
  cases zero : number.isZero with
  | true => rfl
  | false =>
      have positive := Binary64.written_value_pos zero
      rw [Binary64.signedValue, if_pos negative] at nonnegative
      linarith

namespace Decimal

/-- A decimal in units of the last place of a word. -/
theorem value_mul_pow
    (decimal : Decimal)
    (decimals : Nat) :
    decimal.value * 10 ^ decimals = decimal.digits * 10 ^ (decimal.exponent + decimals) := by
  rw [value, zpow_add₀ (by norm_num), zpow_natCast, mul_assoc]

/-- A decimal with no more places than a word has is scaled to that word without a rest. -/
theorem scaled_eq
    {decimal : Decimal}
    {decimals : Nat}
    (fits : decimal.places ≤ decimals) :
    (decimal.scaled decimals : ℚ) = decimal.value * 10 ^ decimals := by
  have nonnegative : 0 ≤ decimal.exponent + decimals := by
    rw [places] at fits
    omega
  rw [value_mul_pow, scaled_of_places_le fits]
  push_cast
  rw [← zpow_natCast, Int.toNat_of_nonneg nonnegative]

/-- A decimal without trailing zeros that has more places than a word is between two words. -/
theorem places_le
    {decimal : Decimal}
    {decimals units : Nat}
    (last : decimal.digits % 10 ≠ 0)
    (whole : (units : ℚ) = decimal.value * 10 ^ decimals) :
    decimal.places ≤ decimals := by
  refine not_lt.mp fun tooMany => last ?_
  obtain ⟨missing, power⟩ : ∃ missing : Nat,
      decimal.exponent + decimals = -((missing + 1 : Nat) : Int) := by
    rw [places] at tooMany
    exact ⟨(-(decimal.exponent + decimals)).toNat - 1, by omega⟩
  rw [value_mul_pow, power, zpow_neg, zpow_natCast, eq_mul_inv_iff_mul_eq₀ (by positivity)] at whole
  have digits : units * 10 ^ (missing + 1) = decimal.digits := by exact_mod_cast whole
  rw [← digits, Nat.pow_succ, ← Nat.mul_assoc]
  exact Nat.mul_mod_left _ _

end Decimal

namespace FixedPoint

variable {reader : UnitReader}

theorem ofBinary64?_of_isZero
    {number : Binary64}
    (zero : number.isZero = true)
    (decimals : Nat) :
    ofBinary64? reader number decimals = some 0 := by
  simp [ofBinary64?, zero, Binary64.isFinite_of_isZero zero]

/-- A positive number has the word that its shortest decimal is, if that is a word. -/
theorem ofBinary64?_of_positive
    (reads : ReadsUnits reader)
    {number : Binary64}
    (finite : number.isFinite = true)
    (negative : number.isNegative = false)
    (nonzero : number.isZero = false)
    (decimals : Nat) :
    ofBinary64? reader number decimals =
      let decimal := Shortest.decimal number
      if decimal.places ≤ decimals ∧ decimals ≤ maxDecimals ∧ decimal.scaled decimals < 2 ^ 256 then
        some (BitVec.ofNat 256 (decimal.scaled decimals))
      else none := by
  have text : number.toText = (Shortest.decimal number).toText := by
    simp [Binary64.toText_of_isFinite finite, negative, Binary64.written, nonzero]
  rw [ofBinary64?, text, Decimal.length_fractionPart_toText]
  simp only [finite, negative, nonzero, Bool.not_true, Bool.false_and, Bool.or_false,
    Bool.false_eq_true, if_false]
  by_cases places : (Shortest.decimal number).places ≤ decimals
  · rw [if_neg (not_lt.mpr places)]
    by_cases few : decimals ≤ maxDecimals
    · rw [reads.toText_eq places few]
      simp only [places, few, true_and]
    · rw [reads.few _ _ (not_le.mp few)]
      simp [few]
  · rw [if_pos (not_le.mp places)]
    simp [places]

/-- A number other than zero has a word when its shortest decimal does. -/
theorem ofBinary64?_eq_some_iff_of_nonzero
    (reads : ReadsUnits reader)
    {number : Binary64}
    (nonzero : number.isZero = false)
    (decimals : Nat)
    (raw : Word) :
    ofBinary64? reader number decimals = some raw ↔
      number.isFinite = true ∧ number.isNegative = false ∧ decimals ≤ maxDecimals ∧
        (raw.toNat : ℚ) = (Shortest.decimal number).value * 10 ^ decimals := by
  cases finite : number.isFinite with
  | false => simp [ofBinary64?, finite]
  | true =>
      cases negative : number.isNegative with
      | true => simp [ofBinary64?, finite, negative, nonzero]
      | false =>
          rw [ofBinary64?_of_positive reads finite negative nonzero]
          simp only [true_and]
          constructor
          · intro written
            split at written
            case isTrue fits =>
              obtain ⟨places, few, small⟩ := fits
              rw [← Option.some.inj written, BitVec.toNat_ofNat, Nat.mod_eq_of_lt small]
              exact ⟨few, Decimal.scaled_eq places⟩
            case isFalse => cases written
          · rintro ⟨few, exact⟩
            have places := Decimal.places_le (Shortest.digits_decimal_mod nonzero) exact
            have units : (Shortest.decimal number).scaled decimals = raw.toNat := by
              exact_mod_cast (Decimal.scaled_eq places).trans exact.symm
            rw [if_pos ⟨places, few, units ▸ raw.isLt⟩, units, BitVec.ofNat_toNat,
              BitVec.setWidth_eq]

/-- The numbers that have a word: their shortest decimal times a power of ten is that word. -/
theorem ofBinary64?_eq_some_iff
    (reads : ReadsUnits reader)
    (number : Binary64)
    (decimals : Nat)
    (raw : Word) :
    ofBinary64? reader number decimals = some raw ↔
      number.isFinite = true ∧ (number.isNegative = true → number.isZero = true) ∧
        (number.isZero = true ∨ decimals ≤ maxDecimals) ∧
        (raw.toNat : ℚ) = number.written.value * 10 ^ decimals := by
  cases zero : number.isZero with
  | true =>
      have value : number.written.value = 0 := by
        simp [Binary64.written, zero, Decimal.value]
      have empty : (raw.toNat : ℚ) = 0 ↔ 0 = raw := by
        rw [Nat.cast_eq_zero, eq_comm (a := 0), BitVec.toNat_eq]
        rfl
      simp [ofBinary64?_of_isZero zero, Binary64.isFinite_of_isZero zero, value, empty]
  | false =>
      have written : number.written = Shortest.decimal number := by simp [Binary64.written, zero]
      rw [ofBinary64?_eq_some_iff_of_nonzero reads zero, written]
      simp

end FixedPoint

namespace HostUnit

open FixedPoint

variable {reader : UnitReader}

/-- A ratio is written as the word that it is, if it is one and its places are not too many. -/
theorem ratioToWire_eq_ok_iff
    (reads : ReadsUnits reader)
    (number : Binary64)
    (decimals : Nat)
    (raw : Word) :
    ratioToWire reader number decimals = .ok raw ↔
      HasShortestText number number.signedValue ∧
        (number.isZero = true ∨ decimals ≤ maxDecimals) ∧
        (raw.toNat : ℚ) = number.signedValue * 10 ^ decimals := by
  have word :
      ratioToWire reader number decimals = .ok raw ↔
        ofBinary64? reader number decimals = some raw := by
    rw [ratioToWire]
    cases ofBinary64? reader number decimals <;> simp
  rw [word, ofBinary64?_eq_some_iff reads, hasShortestText_iff]
  constructor
  · rintro ⟨finite, notBelow, few, exact⟩
    exact ⟨⟨finite, rfl⟩, few, (signedValue_of_notBelow notBelow).symm ▸ exact⟩
  · rintro ⟨⟨finite, -⟩, few, exact⟩
    have nonnegative : 0 ≤ number.signedValue := by
      have scaled : 0 ≤ number.signedValue * 10 ^ decimals := exact ▸ Nat.cast_nonneg _
      exact nonneg_of_mul_nonneg_left scaled (by positivity)
    have notBelow := isZero_of_signedValue_nonneg nonnegative
    exact ⟨finite, notBelow, few, signedValue_of_notBelow notBelow ▸ exact⟩

/-- There is one way to refuse a ratio. -/
theorem ratioToWire_cases
    (reader : UnitReader)
    (number : Binary64)
    (decimals : Nat) :
    (∃ raw, ratioToWire reader number decimals = .ok raw) ∨
      ratioToWire reader number decimals = .error (.overflow "ratio" number.toText) := by
  rw [ratioToWire]
  cases ofBinary64? reader number decimals with
  | none => exact .inr rfl
  | some raw => exact .inl ⟨raw, rfl⟩

/--
A ratio is written exactly or refused, with every reader of units.

Every finite number has a shortest text, and no other one has. A word that is written is what that
text stands for, times the power of ten. A product that does not fit a word is refused, and a
product that is a word is written, with as many places as a power of ten in a word may have. What is
refused is refused with its text.
-/
theorem ratioToWire_exact
    (reads : ReadsUnits reader)
    (number : Binary64)
    (decimals : Nat) :
    (number.isFinite = true ↔ ∃ shortest, HasShortestText number shortest) ∧
    (∀ raw, ratioToWire reader number decimals = .ok raw →
      ∃ shortest, HasShortestText number shortest ∧
        (raw.toNat : ℚ) = shortest * 10 ^ decimals) ∧
    (∀ shortest, HasShortestText number shortest →
      2 ^ 256 ≤ shortest * 10 ^ decimals →
        ratioToWire reader number decimals = .error (.overflow "ratio" number.toText)) ∧
    (∀ shortest (raw : Word), HasShortestText number shortest →
      (raw.toNat : ℚ) = shortest * 10 ^ decimals →
        decimals ≤ maxDecimals → ratioToWire reader number decimals = .ok raw) ∧
    (∀ error, ratioToWire reader number decimals = .error error →
      error = .overflow "ratio" number.toText) := by
  refine ⟨⟨?_, ?_⟩, ?_, ?_, ?_, ?_⟩
  · exact fun finite => ⟨_, (hasShortestText_iff number _).mpr ⟨finite, rfl⟩⟩
  · rintro ⟨shortest, hasText⟩
    exact ((hasShortestText_iff number shortest).mp hasText).1
  · intro raw written
    obtain ⟨hasText, -, exact⟩ := (ratioToWire_eq_ok_iff reads number decimals raw).mp written
    exact ⟨_, hasText, exact⟩
  · intro shortest hasText large
    rcases ratioToWire_cases reader number decimals with ⟨raw, written⟩ | refused
    · -- A word that was written is below the bound.
      obtain ⟨-, -, exact⟩ := (ratioToWire_eq_ok_iff reads number decimals raw).mp written
      rw [((hasShortestText_iff number shortest).mp hasText).2, ← exact] at large
      have small : (raw.toNat : ℚ) < (2 ^ 256 : Nat) := by exact_mod_cast raw.isLt
      push_cast at small
      exact absurd large (not_le.mpr small)
    · exact refused
  · intro shortest raw hasText exact few
    obtain ⟨finite, rfl⟩ := (hasShortestText_iff number shortest).mp hasText
    exact (ratioToWire_eq_ok_iff reads number decimals raw).mpr ⟨hasText, .inr few, exact⟩
  · intro error failed
    rcases ratioToWire_cases reader number decimals with ⟨raw, written⟩ | refused
    · cases written.symm.trans failed
    · exact Except.error.inj (failed.symm.trans refused)

/-- Three is a word without places, and refused with as many as a power of ten may have. -/
theorem ratioToWire_exact_three :
    ReadsUnits parseUnits? ∧
      HasShortestText ⟨0x4008000000000000#64⟩ 3 ∧ (2 : ℚ) ^ 256 ≤ 3 * 10 ^ 77 ∧
      ratioToWire parseUnits? ⟨0x4008000000000000#64⟩ 77 = .error (.overflow "ratio" "3") := by
  have written : ratioToWire parseUnits? ⟨0x4008000000000000#64⟩ 0 = .ok 3#256 := by rfl
  obtain ⟨-, exactly, -⟩ := ratioToWire_exact readsUnits_parseUnits? ⟨0x4008000000000000#64⟩ 0
  obtain ⟨shortest, hasText, exact⟩ := exactly _ written
  have three : shortest = 3 := by
    rw [pow_zero, mul_one] at exact
    exact exact.symm
  rw [three] at hasText
  have large : (2 : ℚ) ^ 256 ≤ 3 * 10 ^ 77 := by norm_num
  obtain ⟨-, -, refused, -⟩ :=
    ratioToWire_exact readsUnits_parseUnits? ⟨0x4008000000000000#64⟩ 77
  exact ⟨readsUnits_parseUnits?, hasText, large, refused 3 hasText large⟩

/-- The double next to one twentieth is written as one twentieth. -/
example : ratioToWire parseUnits? ⟨0x3FA999999999999A#64⟩ 18 = .ok 50000000000000000#256 := by rfl

/-- A ratio that was written is read back. -/
theorem ratioFromWire_of_ratioToWire
    (reads : ReadsUnits reader)
    {number : Binary64}
    {decimals : Nat}
    {raw : Word}
    (written : ratioToWire reader number decimals = .ok raw)
    (unsigned : number.isNegative = false)
    (few : decimals ≤ maxDecimals) :
    ratioFromWire raw decimals = .ok number := by
  obtain ⟨hasText, -, exact⟩ := (ratioToWire_eq_ok_iff reads number decimals raw).mp written
  have finite := ((hasShortestText_iff number _).mp hasText).1
  have value : (raw.toNat : ℚ) / (10 ^ decimals : Nat) = number.written.value := by
    rw [exact, signedValue_of_notBelow (by simp [unsigned])]
    push_cast
    exact mul_div_cancel_right₀ _ (by positivity)
  have near := (Decimal.readsBack_iff finite number.written).mp
    (Binary64.isShortest_written finite).readsBack
  rw [← value, ← Binary64.ofMagnitude_roundRatio_eq_iff finite _ (by positivity), unsigned] at near
  rw [ratioFromWire, toBinary64?, if_pos few, Binary64.ofRatio, near]

end HostUnit

end ContractGateway
