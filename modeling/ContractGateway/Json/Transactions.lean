import ContractGateway.Json.Abi
import ContractGateway.Json.Failures
import ContractGateway.Transaction.Sequence

/-!
# JSON forms of calls and transactions

What goes to a ledger, what comes back, and what is reported of a transaction. Members that are
not set are left out of a transaction; in a report they are null.
-/

namespace ContractGateway

/-- Reads the fees of a transaction; fees of any other kind are the network's. -/
def FeePolicy.ofJson (json : Json) : Decoded FeePolicy := do
  match ← json.text "kind" with
  | "legacy" => return .fixed (.legacy (← json.nat "gas_price"))
  | "eip1559" =>
      return .fixed (.eip1559 (← json.nat "max_fee") (← json.nat "max_priority_fee"))
  | _ => return .network

/-- The fees that a policy fixes. -/
def FeePolicy.fixed? : FeePolicy → Option Pricing
  | .fixed pricing => some pricing
  | .network => none

/-- Reads what a write adds to its call. -/
def SigningOptions.ofJson (json : Json) : Decoded SigningOptions := do
  return {
    sender := ← json.optional "from" Json.toAddress
    value := (← json.optional "value" Json.toWord).getD 0
    nonce := ← json.optional "nonce" Json.toNat
    gasLimit := ← json.optional "gas_limit" Json.toNat
    fees := (← json.optional "gas" FeePolicy.ofJson).getD .network }

/-- Reads a configuration. Two members pass by the builders and set their fields as they are. -/
def Config.ofJson (json : Json) : Decoded Config := do
  let number (key : String) (usual : Nat) : Decoded Nat :=
    return (← json.optional key Json.toNat).getD usual
  let usual : Config := {}
  let bounded :=
    (usual.withMaxCalls (← number "max_calls" usual.reads.maxCalls)).withConfirmations
      (← number "confirmations" usual.confirmation.confirmations)
  let aggregator ← json.optional "multicall_address" Json.toAddress
  let feeMultiplier ← json.optional "fee_multiplier" Json.toDouble
  return {
    reads :=
      { aggregator := aggregator.getD usual.reads.aggregator
        maxCalls := ← number "raw_max_calls" bounded.reads.maxCalls }
    confirmation :=
      { pollInterval := ← number "poll_ms" usual.confirmation.pollInterval
        receiptTimeout := ← number "timeout_ms" usual.confirmation.receiptTimeout
        confirmations := ← number "raw_confirmations" bounded.confirmation.confirmations
        backoffBase := ← number "backoff_ms" usual.confirmation.backoffBase }
    gas :=
      { limitPercent := ← number "gas_percent" usual.gas.limitPercent
        feeMultiplier := feeMultiplier.getD usual.gas.feeMultiplier } }

/-- Writes a configuration. -/
def Config.toJson (config : Config) : Json :=
  .object
    [("multicall_address", Json.ofAddress config.reads.aggregator),
      ("max_calls", Json.ofNat config.reads.maxCalls),
      ("poll_ms", Json.ofNat config.confirmation.pollInterval),
      ("timeout_ms", Json.ofNat config.confirmation.receiptTimeout),
      ("confirmations", Json.ofNat config.confirmation.confirmations),
      ("backoff_ms", Json.ofNat config.confirmation.backoffBase),
      ("gas_percent", Json.ofNat config.gas.limitPercent),
      ("fee_multiplier", Json.ofDouble config.gas.feeMultiplier)]

/-- Reads one read of a round trip, a pair of target and call data. -/
def ReadCall.ofJson (json : Json) : Decoded ReadCall := do
  let (target, calldata) ← json.toPair Json.toAddress Json.toBytes
  return ⟨target, calldata⟩

/-- Writes one read of a round trip. -/
def ReadCall.toJson (call : ReadCall) : Json :=
  .array [Json.ofAddress call.target, Json.ofBytes call.calldata]

/-- Reads a transaction. -/
def TransactionRequest.ofJson (json : Json) : Decoded TransactionRequest := do
  return {
    target := ← json.optional "to" Json.toAddress
    input := ← json.optional "input" Json.toBytes
    value := ← json.optional "value" Json.toWord
    sender := ← json.optional "from" Json.toAddress
    nonce := ← json.optional "nonce" Json.toNat
    gasLimit := ← json.optional "gas" Json.toNat
    fees := (← json.optional "pricing" FeePolicy.ofJson).bind FeePolicy.fixed? }

/-- The members that fees take up in a transaction. -/
def Pricing.members : Pricing → List (String × Json)
  | .legacy price => [("gas_price", Json.ofNat price)]
  | .eip1559 maxFee maxPriorityFee =>
      [("max_fee", Json.ofNat maxFee), ("max_priority_fee", Json.ofNat maxPriorityFee)]

/-- Writes a transaction. -/
def TransactionRequest.toJson (request : TransactionRequest) : Json :=
  .object
    (Json.whenSet "to" Json.ofAddress request.target ++
      Json.whenSet "input" Json.ofBytes request.input ++
      Json.whenSet "value" Json.ofWord request.value ++
      Json.whenSet "from" Json.ofAddress request.sender ++
      Json.whenSet "nonce" Json.ofNat request.nonce ++
      Json.whenSet "gas" Json.ofNat request.gasLimit ++
      (request.fees.map Pricing.members).getD [])

/-- Reads a call of a ledger. -/
def LedgerCall.ofJson (json : Json) : Decoded LedgerCall := do
  match ← json.text "call" with
  | "block_number" => return .blockNumber
  | "gas_price" => return .gasPrice
  | "estimate_fees" => return .estimateFees
  | "pending_nonce" => return .pendingNonce (← json.address "address")
  | "estimate_gas" => return .estimateGas (← json.required "tx" TransactionRequest.ofJson)
  | "send" => return .send (← json.required "tx" TransactionRequest.ofJson)
  | "receipt" => return .receipt (← json.required "hash" Json.toHash)
  | "aggregate" => return .aggregate (← json.items "calls" ReadCall.ofJson) (← json.nat "block")
  | call => throw ("unknown call " ++ call)

/-- The members that a call of a ledger takes up in a log. -/
def LedgerCall.members : LedgerCall → List (String × Json)
  | .blockNumber => [("call", .string "block_number")]
  | .aggregate calls block =>
      [("call", .string "aggregate"), ("block", Json.ofNat block),
        ("calls", Json.ofList ReadCall.toJson calls)]
  | .estimateGas request => [("call", .string "estimate_gas"), ("tx", request.toJson)]
  | .estimateFees => [("call", .string "estimate_fees")]
  | .gasPrice => [("call", .string "gas_price")]
  | .pendingNonce account =>
      [("call", .string "pending_nonce"), ("address", Json.ofAddress account)]
  | .send request => [("call", .string "send"), ("tx", request.toJson)]
  | .receipt hash => [("call", .string "receipt"), ("hash", Json.ofHash hash)]

/-- Writes an exchange with a ledger. -/
def Exchange.toJson (exchange : Exchange) : Json :=
  .object (("at", Json.ofNat exchange.time) :: exchange.call.members)

/-- Writes how one read of a round trip ended. -/
def CallOutcome.toJson : CallOutcome → Json
  | .success data => .object [("success", Json.ofBytes data)]
  | .failure data => .object [("failure", Json.ofBytes data)]

/-- Reads the receipt of a transaction. -/
def Receipt.ofJson (json : Json) : Decoded Receipt := do
  return {
    hash := ← json.required "tx_hash" Json.toHash
    block := ← json.nat "block"
    gasUsed := ← json.nat "gas_used"
    price := ← json.nat "price"
    succeeded := ← json.flag "success" }

/-- Writes the receipt of a transaction. -/
def Receipt.toJson (receipt : Receipt) : Json :=
  .object
    [("tx_hash", Json.ofHash receipt.hash), ("block", Json.ofNat receipt.block),
      ("gas_used", Json.ofNat receipt.gasUsed), ("price", Json.ofNat receipt.price),
      ("success", .bool receipt.succeeded)]

/-- Writes what a ledger answers; fee estimates have several forms. -/
def LedgerCall.answerToJson (fees : FeeEstimate → Json) :
    (call : LedgerCall) → call.Answer → Json
  | .blockNumber, value => Json.ofNat value
  | .aggregate _ _, outcomes => Json.ofList CallOutcome.toJson outcomes
  | .estimateGas _, value => Json.ofNat value
  | .estimateFees, value => fees value
  | .gasPrice, value => Json.ofNat value
  | .pendingNonce _, value => Json.ofNat value
  | .send _, hash => Json.ofHash hash
  | .receipt _, found => Json.ofOption Receipt.toJson found

/-- Writes a prepared write. -/
def PreparedWrite.toJson (write : PreparedWrite) : Json :=
  .object
    [("target", Json.ofAddress write.target), ("label", .string write.label),
      ("calldata", Json.ofBytes write.calldata), ("value", Json.ofWord write.options.value)]

/-- Writes the fees of a transaction. -/
def Pricing.toJson (pricing : Pricing) : Json :=
  let kind :=
    match pricing with
    | .eip1559 _ _ => "eip1559"
    | .legacy _ => "legacy"
  .object
    [("kind", .string kind), ("max_fee", Json.ofNat pricing.maxFee),
      ("max_priority_fee", Json.ofNat pricing.maxPriorityFee)]

/-- Writes the outcome of dry-running and pricing a write. -/
def GasReport.toJson (report : GasReport) : Json :=
  .object
    [("estimated", Json.ofNat report.estimate), ("safe_limit", Json.ofNat report.safeLimit),
      ("pricing", report.pricing.toJson)]

/-- The name of an outcome. -/
def Outcome.name : Outcome → String
  | .confirmed _ => "Confirmed"
  | .reverted _ => "Reverted"
  | .pending _ => "Pending"
  | .timedOut => "TimedOut"

/-- Writes the outcome of a wait for a transaction. -/
def TransactionResult.toJson (result : TransactionResult) : Json :=
  .object
    [("hash", Json.ofHash result.hash), ("label", .string result.label),
      ("outcome", .string result.outcome.name),
      ("receipt", Json.ofOption Receipt.toJson result.outcome.receipt?)]

/-- Writes a submitted transaction. -/
def Handle.toJson (handle : Handle) : Json :=
  .object
    [("hash", Json.ofHash handle.hash), ("label", .string handle.label),
      ("from", Json.ofOption Json.ofAddress handle.sender),
      ("nonce", Json.ofOption Json.ofNat handle.nonce)]

/-- Reads how a sequence is submitted. -/
def SequencePolicy.ofJson : Json → Decoded SequencePolicy :=
  Json.toNamed SequencePolicy.name [.sequential, .parallel]

/-- Writes a step that reached the ledger. -/
def SubmittedStep.toJson (step : SubmittedStep) : Json :=
  .object
    [("index", Json.ofCount step.index), ("handle", step.handle.toJson),
      ("result", step.result.toJson)]

/-- Writes the failure of a sequence. -/
def SequenceFailure.toJson (failure : SequenceFailure) : Json :=
  .object
    [("error", .string "SequenceStepFailed"), ("message", .string failure.message),
      ("step", Json.ofCount failure.index),
      ("completed", Json.ofList TransactionResult.toJson failure.completed),
      ("failed", Json.ofOption SubmittedStep.toJson failure.failed),
      ("unreported", Json.ofList SubmittedStep.toJson failure.unreported)]

end ContractGateway
