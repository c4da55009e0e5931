import ContractGateway.Proofs.Number.Shortest
import ContractGateway.Proofs.Rpc.Quantity
import Mathlib.Data.List.TakeWhile

/-!
# The text of a decimal

A positional text stands for a rational number. The text of a finite double stands for the shortest
decimal that reads back as that double, whatever its sign.
-/

namespace ContractGateway

namespace DecimalText

/-- The number that digits stand for, with a point among them or without one. -/
def unsigned? (characters : List Char) : Option ℚ := do
  let whole ← Rpc.numberInBase? 10 (characters.takeWhile (· ≠ '.'))
  let places := (characters.dropWhile (· ≠ '.')).tail
  let fraction ← Rpc.numberInBase? 10 places
  some (whole + fraction / 10 ^ places.length)

/-- The number that a positional text stands for, behind a sign when it is negative. -/
def value? (text : String) : Option ℚ :=
  if text.toList.head? = some '-' then (unsigned? text.toList.tail).map (- ·)
  else unsigned? text.toList

theorem toList_toString (number : Nat) : (toString number).toList = Nat.toDigits 10 number := by
  rw [Nat.toString_eq_repr, Nat.toList_repr]

theorem isDigit_of_mem_toDigits
    {number : Nat}
    {character : Char}
    (member : character ∈ Nat.toDigits 10 number) :
    character.isDigit = true :=
  Nat.isDigit_of_mem_toDigits (by decide) (by decide) member

theorem ne_point_of_mem_toDigits
    {number : Nat}
    {character : Char}
    (member : character ∈ Nat.toDigits 10 number) :
    decide (character ≠ '.') = true := by
  refine decide_eq_true fun point => ?_
  have digit := isDigit_of_mem_toDigits member
  rw [point] at digit
  exact absurd digit (by decide)

theorem unsigned?_toDigits (number : Nat) :
    unsigned? (Nat.toDigits 10 number) = some (number : ℚ) := by
  have digits : ∀ character ∈ Nat.toDigits 10 number, decide (character ≠ '.') = true :=
    fun _ member => ne_point_of_mem_toDigits member
  rw [unsigned?, List.takeWhile_eq_self_iff.mpr digits, List.dropWhile_eq_nil_iff.mpr digits,
    Rpc.numberInBase?_toDigits (by decide) (by decide)]
  simp [Rpc.numberInBase?]

theorem numberInBase?_zeros
    (zeros : Nat)
    (digits : List Char) :
    Rpc.numberInBase? 10 (List.replicate zeros '0' ++ digits) = Rpc.numberInBase? 10 digits := by
  have zero : Bytes.hexValue? '0' = some 0 := by decide
  induction zeros with
  | zero => rfl
  | succ zeros inductionHypothesis =>
      rw [← inductionHypothesis, Rpc.numberInBase?, List.replicate_succ, List.cons_append,
        List.foldl_cons]
      simp [Rpc.numberInBase?, zero]

/-- Digits behind the point count as many places as there are. -/
theorem unsigned?_point
    (whole fraction places : Nat)
    (fits : (Nat.toDigits 10 fraction).length ≤ places) :
    unsigned?
        (Nat.toDigits 10 whole ++ '.' ::
          (List.replicate (places - (Nat.toDigits 10 fraction).length) '0' ++
            Nat.toDigits 10 fraction)) =
      some ((whole : ℚ) + fraction / 10 ^ places) := by
  have digits : ∀ character ∈ Nat.toDigits 10 whole, decide (character ≠ '.') = true :=
    fun _ member => ne_point_of_mem_toDigits member
  have length : (places - (Nat.toDigits 10 fraction).length) + (Nat.toDigits 10 fraction).length =
      places := by omega
  rw [unsigned?, List.takeWhile_append_of_pos digits, List.dropWhile_append_of_pos digits]
  simp [Rpc.numberInBase?_toDigits, numberInBase?_zeros, length]

end DecimalText

namespace Decimal

open DecimalText

theorem toList_toText_of_whole
    {decimal : Decimal}
    (whole : 0 ≤ decimal.exponent) :
    decimal.toText.toList = Nat.toDigits 10 (decimal.digits * 10 ^ decimal.exponent.toNat) := by
  rw [toText, if_pos whole, toList_toString]

theorem toList_toText_of_places
    {decimal : Decimal}
    (places : decimal.exponent < 0) :
    decimal.toText.toList =
      Nat.toDigits 10 (decimal.digits / 10 ^ decimal.places) ++ '.' ::
        (List.replicate
            (decimal.places -
              (Nat.toDigits 10 (decimal.digits % 10 ^ decimal.places)).length) '0' ++
          Nat.toDigits 10 (decimal.digits % 10 ^ decimal.places)) := by
  have length (number : Nat) : (toString number).length = (Nat.toDigits 10 number).length := by
    rw [← toList_toString, String.length_toList]
  rw [toText, if_neg (not_le.mpr places)]
  simp only [String.toList_append, toList_toString, length, String.toList_ofList]
  simp

/-- The text of a decimal stands for its value. -/
theorem unsigned?_toText (decimal : Decimal) :
    unsigned? decimal.toText.toList = some decimal.value := by
  by_cases whole : 0 ≤ decimal.exponent
  · rw [toList_toText_of_whole whole, unsigned?_toDigits, value]
    push_cast
    rw [← zpow_natCast, Int.toNat_of_nonneg whole]
  · have some : 0 < decimal.places := by
      rw [places]
      omega
    have fits : (Nat.toDigits 10 (decimal.digits % 10 ^ decimal.places)).length ≤ decimal.places :=
      (Nat.length_toDigits_le_iff (by decide) some).mpr (Nat.mod_lt _ (by simp))
    have power : decimal.exponent = -(decimal.places : Int) := by
      rw [places]
      omega
    have divided := Binary64.div_eq_quotient_add_rest decimal.digits
      (show 0 < 10 ^ decimal.places by simp)
    push_cast at divided
    rw [toList_toText_of_places (not_le.mp whole), unsigned?_point _ _ _ fits, value, power,
      zpow_neg, zpow_natCast, ← div_eq_mul_inv, divided]

/-- The text of a decimal starts with a digit. -/
theorem head?_toText (decimal : Decimal) : decimal.toText.toList.head? ≠ some '-' := by
  have digits (number : Nat) (rest : List Char) :
      (Nat.toDigits 10 number ++ rest).head? ≠ some '-' := by
    have nonempty : Nat.toDigits 10 number ≠ [] :=
      List.ne_nil_of_length_pos Nat.length_toDigits_pos
    rw [List.head?_append_of_ne_nil _ nonempty]
    intro sign
    exact absurd (isDigit_of_mem_toDigits (List.mem_of_head? sign)) (by decide)
  by_cases whole : 0 ≤ decimal.exponent
  · rw [toList_toText_of_whole whole]
    simpa using digits (decimal.digits * 10 ^ decimal.exponent.toNat) []
  · rw [toList_toText_of_places (not_le.mp whole)]
    exact digits _ _

end Decimal

/-! ## The text of a double -/

namespace Binary64

/-- The decimal that the text of a finite number shows. -/
def written (number : Binary64) : Decimal :=
  if number.isZero = true then ⟨0, 0⟩ else Shortest.decimal number

theorem toText_of_isFinite
    {number : Binary64}
    (finite : number.isFinite = true) :
    number.toText = (if number.isNegative = true then "-" else "") ++ number.written.toText := by
  have notNaN := isNaN_of_isFinite finite
  cases zero : number.isZero with
  | true =>
      have text : "0" = Decimal.toText ⟨0, 0⟩ := rfl
      simp [toText, written, notNaN, finite, zero, text]
  | false => simp [toText, written, notNaN, finite, zero]

/-- The text of a finite number stands for the decimal that it shows, with the sign. -/
theorem value?_toText
    {number : Binary64}
    (finite : number.isFinite = true) :
    DecimalText.value? number.toText =
      some (if number.isNegative = true then -number.written.value else number.written.value) := by
  rw [toText_of_isFinite finite, DecimalText.value?]
  cases negative : number.isNegative with
  | true => simp [Decimal.unsigned?_toText]
  | false => simp [Decimal.unsigned?_toText, Decimal.head?_toText]

/-- The texts of the other numbers stand for none. -/
theorem value?_toText_of_not_isFinite
    {number : Binary64}
    (infinite : number.isFinite = false) :
    DecimalText.value? number.toText = none := by
  cases notANumber : number.isNaN with
  | true =>
      have text : number.toText = "NaN" := by simp [toText, notANumber]
      rw [text]
      rfl
  | false =>
      cases negative : number.isNegative with
      | true =>
          have text : number.toText = "-inf" := by simp [toText, notANumber, infinite, negative]
          rw [text]
          rfl
      | false =>
          have text : number.toText = "inf" := by simp [toText, notANumber, infinite, negative]
          rw [text]
          rfl

/-- Only zero is written as zero. -/
theorem written_value_pos
    {number : Binary64}
    (nonzero : number.isZero = false) :
    0 < number.written.value := by
  have last := Shortest.digits_decimal_mod nonzero
  have digits : (0 : ℚ) < (Shortest.decimal number).digits := by
    have : 0 < (Shortest.decimal number).digits := by omega
    exact_mod_cast this
  have written : number.written = Shortest.decimal number := by simp [Binary64.written, nonzero]
  rw [written, Decimal.value]
  exact mul_pos digits (ten_zpow_pos _)

theorem isFinite_of_isZero
    {number : Binary64}
    (zero : number.isZero = true) :
    number.isFinite = true := by
  have field : number.exponentField = 0 := by
    simp only [isZero, decide_eq_true_eq] at zero
    exact zero.1
  simp [isFinite, field]

/-- Zero is shorter than all other decimals that are rounded to it. -/
theorem isShortest_zero
    {number : Binary64}
    (zero : number.isZero = true) :
    IsShortest number ⟨0, 0⟩ := by
  obtain ⟨field, fraction⟩ : number.exponentField = 0 ∧ number.fraction = 0 := by
    simpa [isZero] using zero
  have finite := isFinite_of_isZero zero
  have mantissa : number.mantissa = 0 := by rw [Binary64.mantissa, if_pos field, fraction]
  have value : Decimal.value ⟨0, 0⟩ = 0 := by simp [Decimal.value]
  have magnitude : number.magnitude = 0 := by simp [Binary64.magnitude, mantissa]
  refine ⟨?_, fun other _ => ?_, fun other _ _ => ?_⟩
  · rw [Decimal.readsBack_iff finite, value, near_zero_iff, mantissa]
  · exact ((Decimal.size_le_iff ⟨0, 0⟩ 0).mpr (by decide)).trans (Nat.zero_le _)
  · rw [value, magnitude]
    exact .of_target

theorem isShortest_written
    {number : Binary64}
    (finite : number.isFinite = true) :
    IsShortest number number.written := by
  rw [written]
  split
  case isTrue zero => exact isShortest_zero zero
  case isFalse nonzero => exact Shortest.isShortest_decimal finite (by simpa using nonzero)

end Binary64

end ContractGateway
