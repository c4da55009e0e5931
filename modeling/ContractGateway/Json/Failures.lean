import ContractGateway.Json.Slots
import ContractGateway.Transport.Kind

/-!
# JSON forms of errors

An error is written as the name of its kind with its wording. Transport errors give the kind of
the failed exchange as well, and conversion errors inside others are written out.
-/

namespace ContractGateway

namespace TransportError

/-- Reads a transport error. -/
def ofJson (json : Json) : Decoded TransportError := do
  match ← json.text "type" with
  | "resp" =>
      return .response (← json.required "code" Json.toInt) (← json.text "message")
        (← json.optional "data_raw" Json.toText)
  | "custom" => return .custom (← json.text "message")
  | "local" => return .localUsage (← json.text "message")
  | "null" => return .nullResponse
  | "unsupported" => return .unsupported "eth_feeHistory"
  | "http" => return .http (← json.nat "status") (← json.text "body")
  | "missing_batch" =>
      return .missingResponse (String.ofList (← json.required "id" Json.toDigits))
  | "backend_gone" => return .backendGone
  | "pubsub" => return .noSubscriptions
  | kind => throw ("unknown transport error " ++ kind)

/-- The name of the kind of a failed exchange. -/
def kind : TransportError → String
  | .response _ _ _ => "ErrorResp"
  | .nullResponse => "NullResp"
  | .unsupported _ => "UnsupportedFeature"
  | .localUsage _ => "LocalUsageError"
  | .unreadable => "DeserError"
  | _ => "Transport"

/-- Writes a transport error; an unreadable answer has no wording of its own. -/
def toJson (error : TransportError) : Json :=
  .object
    ([("error", .string "Transport"), ("kind", .string error.kind)] ++
      match error with
      | .unreadable => []
      | _ => [("message", .string error.message)])

end TransportError

namespace GatewayError

/-- The name of the kind of an error. -/
def kind : GatewayError → String
  | .slot _ _ (.conversion _) => "Conversion"
  | .slot _ _ _ => "Decode"
  | .batch _ _ _ => "BatchExecution"
  | .batchClosed => "BatchClosed"
  | .notWritable _ => "NotWritable"
  | .unknownMethod _ _ => "UnknownMethod"
  | .unknownContract _ _ => "UnknownContract"
  | .encode _ _ => "Encode"
  | .simulationReverted _ _ => "SimulationReverted"
  | .reverted _ _ => "Reverted"
  | .timedOut _ _ => "TimedOut"
  | .pending _ _ => "Pending"
  | .transport _ => "Transport"

/-- Writes an error. -/
def toJson (error : GatewayError) : Json :=
  let named := [("error", .string error.kind), ("message", .string error.message)]
  match error with
  | .transport cause => cause.toJson
  | .slot _ _ (.conversion cause) => .object (named ++ [("source", cause.toJson)])
  | _ => .object named

end GatewayError

/-- The name of the kind of a failure. -/
def FailureKind.name : FailureKind → String
  | .reverted => "Reverted"
  | .nonceTooLow => "NonceTooLow"
  | .nonceTooHigh => "NonceTooHigh"
  | .replacementUnderpriced => "ReplacementUnderpriced"
  | .insufficientFunds => "InsufficientFunds"
  | .intrinsicGasTooLow => "IntrinsicGasTooLow"
  | .network => "NetworkError"
  | .alreadyKnown => "AlreadyKnown"
  | .unknown => "Unknown"

end ContractGateway
