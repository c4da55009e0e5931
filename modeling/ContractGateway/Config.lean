import ContractGateway.Number.Binary64
import ContractGateway.Word

/-!
# Configuration

How reads are batched, how receipts are awaited and how writes are priced. The builders keep
the size of a round trip and the confirmation depth at one or more; whoever writes the fields
directly may set them to zero, and then zero acts as one.
-/

namespace ContractGateway

/-- How reads are batched. -/
structure ReadConfig where
  /-- The contract that answers many reads in one round trip. -/
  aggregator : Address := 0xca11bde05977b3631167028862be2a173976ca11
  /-- The most reads that one round trip carries. -/
  maxCalls : Nat := 500
  deriving DecidableEq, Repr

/-- How receipts are awaited; times are in milliseconds. -/
structure ConfirmationConfig where
  pollInterval : Nat := 1000
  receiptTimeout : Nat := 120000
  /-- The number of blocks that must hold the transaction, its own included. -/
  confirmations : Nat := 1
  /-- The first pause after a failed poll. -/
  backoffBase : Nat := 100
  deriving DecidableEq, Repr

/-- How writes are priced. -/
structure GasConfig where
  /-- The gas limit as a percentage of the estimate. -/
  limitPercent : Nat := 120
  /-- The factor on fees that the network suggests. -/
  feeMultiplier : Binary64 := ⟨0x3ff0000000000000⟩
  deriving DecidableEq, Repr

/-- The configuration of a client. -/
structure Config where
  reads : ReadConfig := {}
  confirmation : ConfirmationConfig := {}
  gas : GasConfig := {}
  deriving DecidableEq, Repr

namespace Config

/-- Sets the most reads of a round trip, one at least. -/
def withMaxCalls (config : Config) (maxCalls : Nat) : Config :=
  { config with reads := { config.reads with maxCalls := max maxCalls 1 } }

/-- Sets the confirmation depth, one at least. -/
def withConfirmations (config : Config) (confirmations : Nat) : Config :=
  { config with
    confirmation := { config.confirmation with confirmations := max confirmations 1 } }

end Config

end ContractGateway
