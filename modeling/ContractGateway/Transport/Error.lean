import ContractGateway.Bytes
import ContractGateway.Json

/-!
# Transport errors

What can go wrong between the host and a node: the node answers with an error, or no usable
answer arrives at all. An error answer may carry data next to its message; revert data is that
data read as bytes.
-/

namespace ContractGateway

/-- A failed exchange with a node. -/
inductive TransportError where
  /-- The node answered with an error; `data` is the text of the JSON that came with it. -/
  | response (code : Int) (message : String) (data : Option String)
  | nullResponse
  | unsupported (feature : String)
  | localUsage (message : String)
  /-- The answer did not have the expected form. -/
  | unreadable
  | custom (message : String)
  | http (status : Nat) (body : String)
  | missingResponse (id : String)
  | backendGone
  | noSubscriptions
  deriving DecidableEq, Repr

namespace TransportError

/-- The wording of a transport error. -/
def message : TransportError → String
  | .response code message data =>
      "server returned an error response: error code " ++ toString code ++ ": " ++ message ++
        (match data with
          | some text => ", data: " ++ text
          | none => "")
  | .nullResponse => "server returned a null response when a non-null response was expected"
  | .unsupported feature => "unsupported feature: " ++ feature
  | .localUsage message => "local usage error: " ++ message
  | .unreadable => "deserialization error"
  | .custom message => message
  | .http status body =>
      "HTTP error " ++ toString status ++
        (if body.isEmpty then " with empty body" else " with body: " ++ body)
  | .missingResponse id => "missing response for request with ID " ++ id
  | .backendGone => "backend connection task has stopped"
  | .noSubscriptions => "subscriptions are not available on this provider"

/-- The bytes that a JSON value stands for: hexadecimal text, or an array of numbers. -/
def bytesOfJson? : Json → Option Bytes
  | .string text => Bytes.ofHex? text
  | .array items => items.mapM fun item => (item.natBelow? 256).map UInt8.ofNat
  | _ => none

/-- The revert data that came with an error answer. -/
def revertData? : TransportError → Option Bytes
  | .response _ _ (some data) => (Json.parse? data).bind bytesOfJson?
  | _ => none

end TransportError

end ContractGateway
