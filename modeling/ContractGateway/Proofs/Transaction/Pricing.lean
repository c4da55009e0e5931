import ContractGateway.Proofs.Number.Whole
import ContractGateway.Transaction.Submission

/-!
# Network fees without a boost

The factor on network fees is one unless it is configured. Fees pass through doubles all the same,
so a fee of more than fifty-three binary digits is rounded to those, and held at the largest one
there is. It comes out unchanged exactly when `ComesThrough` holds of it, and is never off
by more than one part in `2 ^ 53`.
-/

namespace ContractGateway

/-- What a fee becomes on its way through a double. -/
def keptFee (fee : Nat) : Nat := min (Binary64.nearestWhole fee) maxU128

/-- A fee that fits: behind its first fifty-three binary digits there are zeros. -/
def ComesThrough (fee : Nat) : Prop := 2 ^ Binary64.spareDigits fee ∣ fee ∨ fee = maxU128

section Fee

variable {fee : Nat}

/-- No boost is a factor of one. -/
theorem boost_unboosted (fits : fee ≤ maxU128) :
    boost fee ({} : GasConfig).feeMultiplier = keptFee fee := by
  have small : fee < 2 ^ 1023 :=
    calc fee < 2 ^ 128 := Nat.lt_of_le_of_lt fits (by decide)
      _ ≤ 2 ^ 1023 := Nat.pow_le_pow_right (by decide) (by decide)
  have stands := Binary64.standsFor_ofNat small
  have factor : ({} : GasConfig).feeMultiplier = Binary64.one := rfl
  rw [boost, factor, Binary64.mul_one_of_isFinite stands.finite, stands.truncate_eq, keptFee]

theorem keptFee_eq_iff (fits : fee ≤ maxU128) : keptFee fee = fee ↔ ComesThrough fee := by
  constructor
  · intro kept
    rcases Nat.le_total (Binary64.nearestWhole fee) maxU128 with below | above
    · rw [keptFee, Nat.min_eq_left below] at kept
      exact .inl ((Binary64.nearestWhole_eq_iff fee).mp kept)
    · rw [keptFee, Nat.min_eq_right above] at kept
      exact .inr kept.symm
  · rintro (divides | rfl)
    · rw [keptFee, (Binary64.nearestWhole_eq_iff fee).mpr divides, Nat.min_eq_left fits]
    · decide

/-- A fee loses or gains one part in `2 ^ 53` at most. -/
theorem abs_keptFee_sub_le (fits : fee ≤ maxU128) :
    2 ^ 53 * |(keptFee fee : ℚ) - fee| ≤ fee := by
  have fitsQ : (fee : ℚ) ≤ maxU128 := by exact_mod_cast fits
  have nearer : |(keptFee fee : ℚ) - fee| ≤ |(Binary64.nearestWhole fee : ℚ) - fee| := by
    rw [keptFee, Nat.cast_min]
    rcases le_total (Binary64.nearestWhole fee : ℚ) maxU128 with below | above
    · rw [min_eq_left below]
    · rw [min_eq_right above, abs_of_nonneg (by linarith), abs_of_nonneg (by linarith)]
      linarith
  linarith [Binary64.abs_nearestWhole_sub_le fee]

end Fee

namespace FeePolicy

variable {σ : Type}

section Answers

variable {ledger : Ledger σ} {world : World σ}

theorem resolve_network_of_fees
    {fees : FeeEstimate}
    (suggested : (ledger.ask .estimateFees world).1 = .ok fees)
    (factor : Binary64) :
    (network.resolve ledger factor world).1 =
      .ok (.eip1559 (boost fees.maxFee factor) (boost fees.maxPriorityFee factor)) := by
  simp only [resolve, Process.bind_apply, suggested, Process.pure_apply]

theorem resolve_network_of_price
    {cause : TransportError}
    {price : Nat}
    (unsuggested : (ledger.ask .estimateFees world).1 = .error cause)
    (priced : (ledger.ask .gasPrice (ledger.ask .estimateFees world).2).1 = .ok price)
    (factor : Binary64) :
    (network.resolve ledger factor world).1 = .ok (.legacy (boost price factor)) := by
  simp only [resolve, Process.bind_apply, unsuggested, priced, Process.pure_apply]

end Answers

/--
Without a boost, network fees are those that the ledger answers, but for their way through a double.
They are unchanged exactly when each of them comes through: both suggested ones, or the gas price
when there is no suggestion.
-/
theorem resolve_network_unboosted
    (ledger : Ledger σ)
    (world : World σ) :
    let suggestion := ledger.ask .estimateFees world
    let resolved := (network.resolve ledger ({} : GasConfig).feeMultiplier world).1
    (∀ fees,
      suggestion.1 = .ok fees →
        fees.maxFee ≤ maxU128 →
        fees.maxPriorityFee ≤ maxU128 →
          resolved = .ok (.eip1559 (keptFee fees.maxFee) (keptFee fees.maxPriorityFee)) ∧
            (resolved = .ok (.eip1559 fees.maxFee fees.maxPriorityFee) ↔
              ComesThrough fees.maxFee ∧ ComesThrough fees.maxPriorityFee)) ∧
      ∀ cause price,
        suggestion.1 = .error cause →
          (ledger.ask .gasPrice suggestion.2).1 = .ok price →
            price ≤ maxU128 →
              resolved = .ok (.legacy (keptFee price)) ∧
                (resolved = .ok (.legacy price) ↔ ComesThrough price) := by
  intro suggestion resolved
  constructor
  · intro fees suggested maxFits priorityFits
    have rounded : resolved =
        .ok (.eip1559 (keptFee fees.maxFee) (keptFee fees.maxPriorityFee)) := by
      rw [← boost_unboosted maxFits, ← boost_unboosted priorityFits]
      exact resolve_network_of_fees suggested _
    refine ⟨rounded, ?_⟩
    rw [rounded, Except.ok.injEq, Pricing.eip1559.injEq, keptFee_eq_iff maxFits,
      keptFee_eq_iff priorityFits]
  · intro cause price unsuggested priced fits
    have rounded : resolved = .ok (.legacy (keptFee price)) := by
      rw [← boost_unboosted fits]
      exact resolve_network_of_price unsuggested priced _
    refine ⟨rounded, ?_⟩
    rw [rounded, Except.ok.injEq, Pricing.legacy.injEq, keptFee_eq_iff fits]

end FeePolicy

/-- A ledger with a suggestion for fees or without one, and with a gas price. -/
def pricedLedger (suggestion : Option FeeEstimate) (price : Nat) : Ledger Unit where
  defaultSender := none
  answer
    | .estimateFees, _, state =>
        (suggestion.elim (.error (.unsupported "eth_feeHistory")) .ok, state)
    | .gasPrice, _, state => (.ok price, state)
    | _, _, state => (.error .backendGone, state)

/-- A fee of a whole token comes through, and so does a round gas price. -/
theorem FeePolicy.resolve_network_roundFees :
    let factor := ({} : GasConfig).feeMultiplier
    let suggesting := pricedLedger (some ⟨10 ^ 18, 2000000001⟩) 1
    let silent := pricedLedger none 20000000000
    (FeePolicy.network.resolve suggesting factor (World.start ())).1 =
        .ok (.eip1559 (10 ^ 18) 2000000001) ∧
      (FeePolicy.network.resolve silent factor (World.start ())).1 =
        .ok (.legacy 20000000000) := by
  intro factor suggesting silent
  have suggested := (resolve_network_unboosted suggesting (World.start ())).1
    ⟨10 ^ 18, 2000000001⟩ rfl (by decide) (by decide)
  have priced := (resolve_network_unboosted silent (World.start ())).2
    (.unsupported "eth_feeHistory") 20000000000 rfl rfl (by decide)
  have maxFee : ComesThrough (10 ^ 18) := .inl (by decide)
  have priorityFee : ComesThrough 2000000001 := .inl (by decide)
  have gasPrice : ComesThrough 20000000000 := .inl (by decide)
  exact ⟨suggested.2.mpr ⟨maxFee, priorityFee⟩, priced.2.mpr gasPrice⟩

/-- The least fee that does not come through loses its last unit, suggested or not. -/
theorem FeePolicy.resolve_network_loses_unit :
    let factor := ({} : GasConfig).feeMultiplier
    let fee := 9007199254740993
    let suggesting := pricedLedger (some ⟨fee, 1⟩) 1
    let silent := pricedLedger none fee
    fee ≤ maxU128 ∧
      (suggesting.ask .estimateFees (World.start ())).1 = .ok ⟨fee, 1⟩ ∧
      (FeePolicy.network.resolve suggesting factor (World.start ())).1 =
        .ok (.eip1559 (fee - 1) 1) ∧
      (silent.ask .gasPrice (silent.ask .estimateFees (World.start ())).2).1 = .ok fee ∧
      (FeePolicy.network.resolve silent factor (World.start ())).1 = .ok (.legacy (fee - 1)) := by
  decide +kernel

end ContractGateway
