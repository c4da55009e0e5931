import ContractGateway.Ledger.Scripted
import ContractGateway.Registry.Joined
import ContractGateway.Session.Writes
import ContractGateway.Settings

/-!
# The state of a session

A session keeps a registry of contracts with its resolver, and under names the batches, slots,
results, settings and writes that its steps produce. An act of a session may fail; what it has
changed until then stays changed.
-/

namespace ContractGateway

/-- A slot together with the type of its value. -/
structure KeptSlot where
  type : SlotType
  slot : Slot type

/-- The state of a session. -/
structure Session where
  resolver : Resolver
  registry : Registry := {}
  /-- The serial numbers of identities in the order they were first seen. -/
  seen : List Nat := []
  nextBatch : Nat := 0
  batches : Named Batch := []
  slots : Named KeptSlot := []
  results : Named Results := []
  pending : Named (List PendingSetting) := []
  settings : Settings := {}
  book : WriteBook := {}

namespace Session

/-- What happens in a session: it may fail, changes the session, and takes place in a world. -/
abbrev Act (α : Type) := ExceptT GatewayError (StateT Session (Process Scripted.State)) α

/-- A result as an act. -/
def liftResult {α : Type} : Except GatewayError α → Act α
  | .ok value => pure value
  | .error error => throw error

/-- A process as an act. -/
def liftProcess {α : Type} (process : Process Scripted.State α) : Act α :=
  ExceptT.lift (StateT.lift process)

/-- Changes the ledger. -/
def modifyLedger (change : Scripted.State → Scripted.State) : Act Unit :=
  liftProcess (modify fun world => { world with ledger := change world.ledger })

end Session

end ContractGateway
