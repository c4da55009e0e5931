import ContractGateway.Rpc.Ledger
import Mathlib.Data.Nat.Digits.Lemmas

/-!
# Numbers in requests

A node reads from a request the numbers that were written into it, whatever their size.
-/

namespace ContractGateway.Rpc

theorem hexValue?_digitChar {digit : Nat} (small : digit < 16) :
    Bytes.hexValue? (Nat.digitChar digit) = some digit := by
  have cases : ∀ digit : Fin 16, Bytes.hexValue? (Nat.digitChar digit.val) = some digit.val := by
    decide
  exact cases ⟨digit, small⟩

/-- What the digits of a number stand for is that number. -/
theorem numberInBase?_toDigits
    {base : Nat}
    (large : 1 < base)
    (readable : base ≤ 16)
    (value : Nat) :
    numberInBase? base (Nat.toDigits base value) = some value := by
  induction value using Nat.strongRecOn with
  | ind value inductionHypothesis =>
      by_cases short : value < base
      · have digit := hexValue?_digitChar (Nat.lt_of_lt_of_le short readable)
        simp [Nat.toDigits_of_lt_base short, numberInBase?, digit, short]
      · have last : value % base < base := Nat.mod_lt _ (by omega)
        have digit := hexValue?_digitChar (Nat.lt_of_lt_of_le last readable)
        have front := inductionHypothesis (value / base) (Nat.div_lt_self (by omega) large)
        rw [numberInBase?] at front
        rw [Nat.toDigits_of_base_le large (by omega), numberInBase?, List.foldl_append, front]
        simp [digit, last, Nat.div_add_mod']

theorem exists_of_mem_toDigits
    {base value : Nat}
    {character : Char}
    (large : 1 < base)
    (member : character ∈ Nat.toDigits base value) :
    ∃ digit, digit < base ∧ character = Nat.digitChar digit := by
  induction value using Nat.strongRecOn with
  | ind value inductionHypothesis =>
      by_cases short : value < base
      · rw [Nat.toDigits_of_lt_base short, List.mem_singleton] at member
        exact ⟨value, short, member⟩
      · rw [Nat.toDigits_of_base_le large (by omega), List.mem_append, List.mem_singleton] at member
        rcases member with front | last
        · exact inductionHypothesis _ (Nat.div_lt_self (by omega) large) front
        · exact ⟨value % base, Nat.mod_lt _ (by omega), last⟩

theorem digitChar_ne_underscore {digit : Nat} (small : digit < 16) :
    Nat.digitChar digit ≠ '_' := by
  have cases : ∀ digit : Fin 16, Nat.digitChar digit.val ≠ '_' := by decide
  exact cases ⟨digit, small⟩

/-- A number is read back from its text. -/
theorem numberOfText?_quantityText (value : Nat) :
    numberOfText? (quantityText value) = some value := by
  have marked : (quantityText value).toList = '0' :: 'x' :: Nat.toDigits 16 value := by
    simp [quantityText, Text.hexOfNat]
  have plain :
      (Nat.toDigits 16 value).filter (fun digit => decide (digit ≠ '_')) =
        Nat.toDigits 16 value := by
    refine List.filter_eq_self.mpr fun character member => decide_eq_true ?_
    obtain ⟨digit, small, rfl⟩ := exists_of_mem_toDigits (by decide) member
    exact digitChar_ne_underscore small
  rw [numberOfText?, marked]
  simp only [baseAndDigits, true_or, if_true, plain]
  exact numberInBase?_toDigits (by decide) (by decide) value

end ContractGateway.Rpc
