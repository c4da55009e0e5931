import ContractGateway.Slot.Value
import ContractGateway.Transport.Error

/-!
# Errors of the gateway

Everything that reading and writing through the gateway can report to its caller, by cause. Each
error names the slot, the label or the transaction it is about, and `message` words it.
-/

namespace ContractGateway

/-- Why call arguments could not be made. -/
inductive EncodeFailure where
  | arguments (cause : Abi.EncodeError)
  | noValueParameter
  | unresolvedValueType (cause : AbiType.Unresolved)
  | conversion (cause : ConversionError)
  | settingCount (types values : Nat)
  | settingType (actual expected : String)
  | settingKind (actual expected : String)
  deriving Repr

/-- The wording of an encoding failure. -/
def EncodeFailure.message : EncodeFailure → String
  | .arguments cause => cause.message
  | .noValueParameter => "setter takes no value argument"
  | .unresolvedValueType cause => cause.message
  | .conversion cause => cause.message
  | .settingCount types values =>
      toString types ++ " setting types for " ++ toString values ++ " values"
  | .settingType actual expected =>
      "value is " ++ actual ++ " but the setting type is " ++ expected
  | .settingKind actual expected => "value is " ++ actual ++ " but the setting is " ++ expected

/-- Why a batch of reads gave no values. -/
inductive BatchFailure where
  | headUnavailable (cause : TransportError)
  | roundTrip (number : Nat) (cause : TransportError)
  | resultCount (number actual expected : Nat)
  | reverted (reason : String)
  deriving Repr

/-- The wording of a batch failure. -/
def BatchFailure.message : BatchFailure → String
  | .headUnavailable cause => "failed to resolve latest block: " ++ cause.message
  | .roundTrip number cause => "round trip " ++ toString number ++ " failed: " ++ cause.message
  | .resultCount number actual expected =>
      "round trip " ++ toString number ++ " returned " ++ toString actual ++ " results for " ++
        toString expected ++ " calls"
  | .reverted reason => reason

/-- An error of the gateway. -/
inductive GatewayError where
  /-- The return data of one slot is of no use. -/
  | slot (index : Nat) (label : String) (cause : SlotError)
  /-- A whole batch failed, at a known slot or at a round trip. -/
  | batch (index : Option Nat) (label : String) (cause : BatchFailure)
  | batchClosed
  | notWritable (label : String)
  | unknownMethod (contract method : String)
  | unknownContract (name reason : String)
  | encode (label : String) (cause : EncodeFailure)
  | simulationReverted (label reason : String)
  | reverted (hash : Hash) (label : String)
  | timedOut (hash : Hash) (label : String)
  | pending (hash : Hash) (label : String)
  | transport (cause : TransportError)
  deriving Repr

namespace GatewayError

/-- How a transaction is named in errors. -/
def transactionText (hash : Hash) (label : String) : String :=
  "transaction " ++ Word.toHex hash ++ " (" ++ label ++ ")"

/-- How a slot is named in errors. -/
def slotText (index : Nat) (label : String) : String :=
  "slot " ++ toString index ++ " (" ++ label ++ "): "

/-- The wording of an error. -/
def message : GatewayError → String
  | .slot index label (.conversion cause) => slotText index label ++ cause.message
  | .slot index label cause => slotText index label ++ "decode error: " ++ cause.reason
  | .batch index label cause =>
      "batch execution failed at slot " ++ Text.optional (index.map toString) ++ " (" ++ label ++
        "): " ++ cause.message
  | .batchClosed => "batch is closed for submission"
  | .notWritable label => label ++ " is not writable"
  | .unknownMethod contract method => "contract " ++ contract ++ " has no method " ++ method
  | .unknownContract name reason => "unknown contract " ++ name ++ ": " ++ reason
  | .encode label cause => label ++ ": failed to encode arguments: " ++ cause.message
  | .simulationReverted label reason => label ++ ": simulation reverted: " ++ reason
  | .reverted hash label => transactionText hash label ++ " reverted"
  | .timedOut hash label => transactionText hash label ++ " timed out waiting for inclusion"
  | .pending hash label => transactionText hash label ++ " is still pending confirmation"
  | .transport cause => cause.message

end GatewayError

end ContractGateway
