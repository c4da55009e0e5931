import ContractGateway.Config
import ContractGateway.Rpc.Aggregation
import ContractGateway.Rpc.FeeHistory
import ContractGateway.Rpc.Receipt

/-!
# The ledger behind a node

A ledger that is reached through the requests of a node's interface. A transport carries one
request at a time and brings back the JSON of the result, or a failure. Results in an unexpected
form are unreadable.
-/

namespace ContractGateway.Rpc

/-- One request: its method and its parameters, if it has any. -/
structure NodeRequest where
  method : String
  parameters : Option (List Json)
  deriving Repr

/-- A machine with states `σ` that answers requests. -/
abbrev Transport (σ : Type) := NodeRequest → σ → Except TransportError Json × σ

/-- A step of talking to a node that gives a value or fails. -/
abbrev Talk (σ α : Type) := ExceptT TransportError (StateM σ) α

/-- The JSON text of an address. -/
def addressJson (address : Address) : Json := .string (Address.toHex address)

/-- The JSON text of a number. -/
def quantityJson (value : Nat) : Json := .string (quantityText value)

/-- A field that is present when its value is. -/
def optionalField {α : Type} (key : String) (write : α → Json) (value : Option α) :
    List (String × Json) :=
  (value.map fun value => (key, write value)).toList

/-- The fields that carry fees. -/
def feeFields : Option Pricing → List (String × Json)
  | none => []
  | some (.legacy gasPrice) => [("gasPrice", quantityJson gasPrice)]
  | some (.eip1559 maxFee maxPriorityFee) =>
      [("maxFeePerGas", quantityJson maxFee),
        ("maxPriorityFeePerGas", quantityJson maxPriorityFee)]

/-- The fields of a transaction that are set. -/
def transactionFields (request : TransactionRequest) : List (String × Json) :=
  optionalField "from" addressJson request.sender ++
    optionalField "to" addressJson request.target ++
    optionalField "gas" quantityJson request.gasLimit ++
    feeFields request.fees ++
    optionalField "value" (fun value : Word => quantityJson value.toNat) request.value ++
    optionalField "nonce" quantityJson request.nonce ++
    optionalField "input" (fun input : Bytes => .string (Bytes.toHex input)) request.input

/-- The type of a transaction that is sent: the old one when it has a gas price. -/
def transactionType (request : TransactionRequest) : Json :=
  match request.fees with
  | some (.legacy _) => .string "0x0"
  | _ => .string "0x2"

section Requests

variable {σ : Type}

/-- Makes one request and reads its result. -/
def request {α : Type}
    (transport : Transport σ)
    (method : String)
    (parameters : Option (List Json))
    (read : Json → Option α) : Talk σ α := do
  let result ← fun state => transport ⟨method, parameters⟩ state
  match read result with
  | some value => return value
  | none => throw .unreadable

/-- The base fee that the newest block names. -/
def blockBaseFee (transport : Transport σ) : Talk σ Nat := do
  let block ←
    request transport "eth_getBlockByNumber" (some [.string "latest", .bool false]) some
  match block with
  | .null => throw .nullResponse
  | block =>
      match headerBaseFee? block with
      | none => throw .unreadable
      | some none => throw (.unsupported "eip1559")
      | some (some fee) => return fee

/-- The suggested fees, from the history of the last ten blocks. -/
def suggestFees (transport : Transport σ) : Talk σ FeeEstimate := do
  let history ←
    request transport "eth_feeHistory"
      (some [.string "0xa", .string "latest", .array [.number "20"]]) feeHistory?
  match history.latestBaseFee? with
  | none | some 0 => return history.estimate (← blockBaseFee transport)
  | some fee => return history.estimate fee

/-- The receipt of a transaction, if there is one. -/
def findReceipt (transport : Transport σ) (hash : Hash) : Talk σ (Option Receipt) :=
  request transport "eth_getTransactionReceipt" (some [.string (Word.toHex hash)]) fun json =>
    match json with
    | .null => some none
    | json => receipt? json

/-- Sends a transaction, which needs a sender of its own or a default one. -/
def sendTransaction
    (transport : Transport σ)
    (sender : Option Address)
    (transaction : TransactionRequest) : Talk σ Hash :=
  if sender.isNone && transaction.sender.isNone then
    throw (.unsupported "Cannot send transaction without a signer")
  else
    request transport "eth_sendTransaction"
      (some [.object (transactionFields transaction ++
        [("type", transactionType transaction)])]) hash?

/-- Reads many calls at a block through the aggregating contract. -/
def aggregateReads
    (transport : Transport σ)
    (aggregator : Address)
    (calls : List ReadCall)
    (block : Nat) : Talk σ (List CallOutcome) := do
  let fields :=
    [("to", addressJson aggregator), ("input", .string (Bytes.toHex (aggregateInput calls)))]
  let data ←
    request transport "eth_call" (some [.object fields, quantityJson block])
      TransportError.bytesOfJson?
  match aggregateAnswer calls.length data with
  | .ok outcomes => return outcomes
  | .error cause => throw cause

end Requests

/-- What the ledger behind a node needs to know: the aggregating contract and its sender. -/
structure NodeConfig where
  aggregator : Address := ({} : ReadConfig).aggregator
  sender : Option Address := none
  deriving DecidableEq, Repr

/-- The description of the ledger behind a node. -/
def NodeConfig.describe (config : NodeConfig) : String :=
  "RpcLedger \x7b multicall_address: " ++ Address.toHex config.aggregator ++ ", sender: " ++
    Text.optional (config.sender.map Address.toHex) ++ ", .. \x7d"

/-- Answers a call of the ledger by requests. -/
def answer {σ : Type} (transport : Transport σ) (config : NodeConfig) :
    (call : LedgerCall) → Talk σ call.Answer
  | .blockNumber => request transport "eth_blockNumber" none (quantity? 64)
  | .aggregate calls block => aggregateReads transport config.aggregator calls block
  | .estimateGas transaction =>
      request transport "eth_estimateGas"
        (some [.object (transactionFields transaction), .string "pending"]) (quantity? 64)
  | .estimateFees => suggestFees transport
  | .gasPrice => request transport "eth_gasPrice" none (quantity? 128)
  | .pendingNonce account =>
      request transport "eth_getTransactionCount"
        (some [addressJson account, .string "pending"]) (quantity? 64)
  | .send transaction => sendTransaction transport config.sender transaction
  | .receipt hash => findReceipt transport hash

/-- The ledger behind a node. -/
def nodeLedger {σ : Type} (transport : Transport σ) (config : NodeConfig) : Ledger σ where
  defaultSender := config.sender
  answer := fun call _ state => (answer transport config call).run state

end ContractGateway.Rpc
