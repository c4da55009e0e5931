import ContractGateway.Ledger.Basic
import ContractGateway.Revert.Interfaces

/-!
# Aggregated reads

Many reads travel in one call of the aggregating contract: the call data lists target, leave to
fail and call data of each read, and the return data lists success and data of each one. Every
read is given leave to fail, so one failure does not spoil the others.
-/

namespace ContractGateway.Rpc

/-- The selector of the aggregating method. -/
def aggregateSelector : Bytes := Revert.selector "aggregate3((address,bool,bytes)[])"

/-- One read among the arguments. -/
def readArgument (call : ReadCall) : AbiValue :=
  .tuple [.address call.target, .bool true, .bytes call.calldata]

/-- The call data that aggregates some reads. -/
def aggregateInput (calls : List ReadCall) : Bytes :=
  aggregateSelector ++ Abi.encode [.array (calls.map readArgument)]

/-- The type of the return data: success and data of each read. -/
def outcomesType : AbiType := .array (.tuple [.bool, .bytes])

/-- The outcome of one read. -/
def outcomeOfValue : AbiValue → CallOutcome
  | .tuple [.bool true, .bytes data] => .success data
  | .tuple [.bool false, .bytes data] => .failure data
  | _ => .failure []

/-- The outcomes in the return data. -/
def decodeOutcomes (data : Bytes) : Except Abi.DecodeError (List CallOutcome) := do
  match ← Abi.decode [outcomesType] data with
  | [.array items] => return items.map outcomeOfValue
  | _ => return []

/-- The answer to an aggregated read from its return data. -/
def aggregateAnswer (expected : Nat) (data : Bytes) :
    Except TransportError (List CallOutcome) :=
  match decodeOutcomes data with
  | .error cause => .error (.custom ("malformed aggregate3 response: " ++ cause.message))
  | .ok outcomes =>
      if outcomes.length = expected then .ok outcomes
      else
        .error (.custom ("aggregate3 returned " ++ toString outcomes.length ++
          " results for " ++ toString expected ++ " calls"))

end ContractGateway.Rpc
