import ContractGateway.Number.Binary64
import ContractGateway.Word

/-!
# Fees and gas limits

A write either carries its fees or takes them from the network. Network fees are multiplied by
a factor; a gas estimate is scaled by a percentage and never falls below itself.
-/

namespace ContractGateway

/-- The fees of one transaction. -/
inductive Pricing where
  | eip1559 (maxFee maxPriorityFee : Nat)
  | legacy (gasPrice : Nat)
  deriving DecidableEq, Repr

namespace Pricing

/-- The most that a unit of gas may cost. -/
def maxFee : Pricing → Nat
  | .eip1559 maxFee _ => maxFee
  | .legacy gasPrice => gasPrice

/-- The most that a unit of gas may pay for precedence. -/
def maxPriorityFee : Pricing → Nat
  | .eip1559 _ maxPriorityFee => maxPriorityFee
  | .legacy gasPrice => gasPrice

end Pricing

/-- Where the fees of a write come from. -/
inductive FeePolicy where
  | fixed (pricing : Pricing)
  | network
  deriving DecidableEq, Repr

/-- A network's suggestion for both fees. -/
structure FeeEstimate where
  maxFee : Nat
  maxPriorityFee : Nat
  deriving DecidableEq, Repr

/-- The largest number that fits 128 bits. -/
def maxU128 : Nat := 2 ^ 128 - 1

/-- A fee times a factor, through the nearest doubles and cut to an integer of 128 bits. -/
def boost (fee : Nat) (factor : Binary64) : Nat :=
  ((Binary64.ofNat fee).mul factor).truncate maxU128

/-- A gas estimate scaled by a percentage within 64 bits, never below the estimate. -/
def safeGasLimit (estimate percent : Nat) : Nat :=
  max (min (estimate * percent / 100) (2 ^ 64 - 1)) estimate

/-- The outcome of dry-running and pricing a write. -/
structure GasReport where
  estimate : Nat
  safeLimit : Nat
  pricing : Pricing
  deriving DecidableEq, Repr

/-- What a write adds to its call: sender, value, nonce, gas limit and fees. -/
structure SigningOptions where
  sender : Option Address := none
  value : Word := 0
  nonce : Option Nat := none
  gasLimit : Option Nat := none
  fees : FeePolicy := .network
  deriving DecidableEq, Repr

/-- An encoded write, ready to be estimated or submitted. -/
structure PreparedWrite where
  target : Address
  label : String
  calldata : Bytes
  options : SigningOptions
  deriving DecidableEq, Repr

end ContractGateway
