import ContractGateway.Config
import ContractGateway.Error
import ContractGateway.Ledger.Basic
import ContractGateway.Revert.Reason
import ContractGateway.Transport.Kind

/-!
# Estimating and submitting writes

A write is priced by its own fees or by those the network suggests, dry-run unless it carries a
gas limit, and then sent once. Nothing is ever sent twice, and nothing is called after a failure.
-/

namespace ContractGateway

/-- A submitted transaction. -/
structure Handle where
  hash : Hash
  label : String
  sender : Option Address
  nonce : Option Nat
  deriving DecidableEq, Repr

/-- What every transaction needs: the ledger it goes to, the configuration and what is linked. -/
structure Client (σ : Type) where
  ledger : Ledger σ
  config : Config
  /-- The parsers that are registered for the errors of contracts. -/
  parsers : List Revert.ErrorParser := []
  /--
  How many polls beyond its timeout a wait makes while its pauses have no length. Time does not pass
  between such polls, so no deadline would end them. What is stated of waits holds of any number.
  -/
  idlePolls : Nat := 0

namespace FeePolicy

variable {σ : Type}

/--
The fees of a write: its own ones, or the network's suggestion times a factor. A network without
a suggestion is asked for its gas price instead.
-/
def resolve
    (ledger : Ledger σ)
    (factor : Binary64)
    (policy : FeePolicy) : Process σ (Except TransportError Pricing) :=
  match policy with
  | .fixed pricing => return .ok pricing
  | .network => do
      match ← ledger.ask .estimateFees with
      | .ok fees =>
          return .ok (.eip1559 (boost fees.maxFee factor) (boost fees.maxPriorityFee factor))
      | .error _ =>
          match ← ledger.ask .gasPrice with
          | .ok price => return .ok (.legacy (boost price factor))
          | .error cause => return .error cause

end FeePolicy

namespace PreparedWrite

/-- The transaction that carries a write, without its gas limit and fees. -/
def request
    (write : PreparedWrite)
    (sender : Option Address)
    (nonce : Option Nat) : TransactionRequest where
  target := some write.target
  input := some write.calldata
  value := some write.options.value
  sender := sender
  nonce := nonce

/-- The error of a failed dry run: reverts carry their reason, other failures stay as they are. -/
def dryRunError
    (write : PreparedWrite)
    (parsers : List Revert.ErrorParser)
    (cause : TransportError) : GatewayError :=
  if (FailureKind.ofError cause).isRevert then
    .simulationReverted write.label (Revert.reasonOfError parsers cause)
  else .transport cause

end PreparedWrite

namespace Client

variable {σ : Type}

/-- The sender of a write: its own one, else the ledger's default. -/
def sender (client : Client σ) (write : PreparedWrite) : Option Address :=
  write.options.sender <|> client.ledger.defaultSender

/-- The fees of a write under the configured factor. -/
def price
    (client : Client σ)
    (write : PreparedWrite) : Process σ (Except TransportError Pricing) :=
  write.options.fees.resolve client.ledger client.config.gas.feeMultiplier

/-- Dry-runs a write and prices it; sends nothing. -/
def estimate
    (client : Client σ)
    (write : PreparedWrite) : Process σ (Except GatewayError GasReport) := do
  let request := write.request (client.sender write) write.options.nonce
  match ← client.ledger.ask (.estimateGas request) with
  | .error cause => return .error (write.dryRunError client.parsers cause)
  | .ok estimate =>
      match ← client.price write with
      | .error cause => return .error (.transport cause)
      | .ok pricing =>
          let limit := safeGasLimit estimate client.config.gas.limitPercent
          return .ok ⟨estimate, limit, pricing⟩

/-- The gas limit and fees that a write is sent with. A write with a gas limit is not dry-run. -/
def gasAndFees
    (client : Client σ)
    (write : PreparedWrite) : Process σ (Except GatewayError (Nat × Pricing)) := do
  match write.options.gasLimit with
  | some limit =>
      match ← client.price write with
      | .error cause => return .error (.transport cause)
      | .ok pricing => return .ok (limit, pricing)
  | none =>
      match ← client.estimate write with
      | .error error => return .error error
      | .ok report => return .ok (report.safeLimit, report.pricing)

/--
Sends a write with an assigned nonce, else with the nonce of its options. The dry run does not
see an assigned nonce.
-/
def submitWith
    (client : Client σ)
    (write : PreparedWrite)
    (assigned : Option Nat) : Process σ (Except GatewayError Handle) := do
  match ← client.gasAndFees write with
  | .error error => return .error error
  | .ok (limit, pricing) =>
      let sender := client.sender write
      let nonce := assigned <|> write.options.nonce
      let request :=
        { write.request sender nonce with gasLimit := some limit, fees := some pricing }
      match ← client.ledger.ask (.send request) with
      | .error cause => return .error (.transport cause)
      | .ok hash => return .ok ⟨hash, write.label, sender, nonce⟩

/-- Sends a write without waiting for its inclusion. -/
def submit
    (client : Client σ)
    (write : PreparedWrite) : Process σ (Except GatewayError Handle) :=
  client.submitWith write none

end Client

end ContractGateway
