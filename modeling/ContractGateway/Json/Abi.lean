import ContractGateway.Contract
import ContractGateway.Json.Members

/-!
# JSON forms of ABI values and contracts

An ABI value is an object with one member, which is named for the kind of the value; integers
give their number of bits beside it. A parameter is a type text, or an object when it is a
tuple with components.
-/

namespace ContractGateway

namespace AbiValue

/-- A value without parts, by the name of its kind. -/
def leafOfJson (bits : Nat) (kind : String) (json : Json) : Decoded AbiValue := do
  match kind with
  | "bool" => return .bool (← json.toFlag)
  | "uint" => return .uint (← json.toWord) bits
  | "int" => return .int (BitVec.ofInt 256 (← json.toInt)) bits
  | "address" => return .address (← json.toAddress)
  | "fixed_bytes" =>
      let bytes ← json.toBytes
      return .fixedBytes (Word.ofBytes (bytes ++ Bytes.zeros (32 - bytes.length))) bytes.length
  | "bytes" => return .bytes (← json.toBytes)
  | "string" => return .string (← json.toText)
  | "function" => return .function (BitVec.ofNat 192 (← json.toBytes).toNat)
  | _ => throw ("unknown kind of value " ++ kind)

mutual

/-- Reads a value. -/
def ofJson : Json → Decoded AbiValue
  | .object fields => do
      let bits ← (Json.object fields).optional "bits" Json.toNat
      ofMembers (bits.getD 256) fields
  | _ => .error "not an ABI value"

/-- Reads a value from the first member that is not about its bits. -/
def ofMembers (bits : Nat) : List (String × Json) → Decoded AbiValue
  | [] => .error "not an ABI value"
  | ("bits", _) :: rest => ofMembers bits rest
  | ("array", .array items) :: _ => return .array (← ofItems items)
  | ("fixed_array", .array items) :: _ => return .fixedArray (← ofItems items)
  | ("tuple", .array items) :: _ => return .tuple (← ofItems items)
  | (kind, json) :: _ => leafOfJson bits kind json

/-- Reads several values. -/
def ofItems : List Json → Decoded (List AbiValue)
  | [] => .ok []
  | json :: rest => do
      let value ← ofJson json
      let values ← ofItems rest
      return value :: values

end

mutual

/-- Writes a value. -/
def toJson : AbiValue → Json
  | .bool value => .object [("bool", .bool value)]
  | .int value bits => .object [("int", Json.ofInt value.toInt), ("bits", Json.ofCount bits)]
  | .uint value bits => .object [("uint", Json.ofWord value), ("bits", Json.ofCount bits)]
  | .fixedBytes value size =>
      .object [("fixed_bytes", Json.ofBytes (value.toBytes.take size))]
  | .address value => .object [("address", Json.ofAddress value)]
  | .function value => .object [("function", Json.ofBytes (Bytes.ofNat 24 value.toNat))]
  | .bytes value => .object [("bytes", Json.ofBytes value)]
  | .string value => .object [("string", .string value)]
  | .array items => .object [("array", .array (toItems items))]
  | .fixedArray items => .object [("fixed_array", .array (toItems items))]
  | .tuple items => .object [("tuple", .array (toItems items))]

/-- Writes several values. -/
def toItems : List AbiValue → List Json
  | [] => []
  | value :: rest => value.toJson :: toItems rest

end

end AbiValue

namespace Parameter

mutual

/-- Reads a parameter. -/
def ofJson : Json → Decoded Parameter
  | .string text => .ok (.mk text [])
  | .object fields => do
      let components ← ofMembers fields
      return .mk (← (Json.object fields).text "type") components
  | _ => .error "not a parameter"

/-- Reads the components among the members of a parameter. -/
def ofMembers : List (String × Json) → Decoded (List Parameter)
  | [] => .ok []
  | ("components", .array items) :: _ => ofItems items
  | _ :: rest => ofMembers rest

/-- Reads several parameters. -/
def ofItems : List Json → Decoded (List Parameter)
  | [] => .ok []
  | json :: rest => do
      let parameter ← ofJson json
      let parameters ← ofItems rest
      return parameter :: parameters

end

end Parameter

/-- Reads how a method may be called; a method that says nothing only reads. -/
def Mutability.ofText (text : Option String) : Decoded Mutability :=
  match text with
  | none | some "view" => .ok .view
  | some "pure" => .ok .pure
  | some "nonpayable" => .ok .nonpayable
  | some "payable" => .ok .payable
  | some other => .error ("unknown mutability " ++ other)

/-- Reads a method. -/
def Method.ofJson (json : Json) : Decoded Method := do
  return {
    name := ← json.text "name"
    inputs := ← json.itemsOrNone "inputs" Parameter.ofJson
    outputs := ← json.itemsOrNone "outputs" Parameter.ofJson
    mutability := ← Mutability.ofText (← json.optional "mut" Json.toText) }

/-- Reads a contract. -/
def Contract.ofJson (json : Json) : Decoded Contract := do
  return {
    name := ← json.text "name"
    address := ← json.address "address"
    methods := ← json.itemsOrNone "functions" Method.ofJson }

end ContractGateway
