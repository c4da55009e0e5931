import ContractGateway.Json.Members
import ContractGateway.Settings

/-!
# JSON forms of slot values

A slot type is named by a text: a plain name, the name of a host unit, `param:` in front of a
unit for a word that is converted later, or `vec:` in front of an item type for a list.
-/

namespace ContractGateway

/-- Writes why a value has no counterpart. -/
def ConversionError.toJson (error : ConversionError) : Json :=
  let kind :=
    match error with
    | .overflow _ _ => "Overflow"
    | .unknownVariant _ _ => "UnknownVariant"
  .object [("error", .string kind), ("message", .string error.message)]

/-- Writes why a slot cannot be filled. -/
def SlotError.toJson : SlotError → Json
  | .conversion error => error.toJson
  | error => .object [("error", .string "Decode"), ("message", .string error.message)]

namespace HostUnit

/-- The units by the names that scripts give them, next to some enumerations. -/
def named (declared : List WireEnum) : List (String × HostUnit) :=
  [("u8", .unsigned .u8), ("u16", .unsigned .u16), ("u32", .unsigned .u32),
    ("u64", .unsigned .u64), ("u128", .unsigned .u128), ("usize", .unsigned .usize),
    ("i64", .i64), ("u256", .word), ("f64", .ratio), ("duration", .duration),
    ("timestamp", .timestamp)] ++
    declared.map fun enumeration => (enumeration.name, .enumeration enumeration)

/-- The unit of a name. -/
def ofText (declared : List WireEnum) (text : String) : Decoded HostUnit :=
  match (named declared).lookup text with
  | some host => .ok host
  | none => .error ("unknown unit " ++ text)

/-- Reads a value of a unit. -/
def valueOfJson : (host : HostUnit) → Json → Decoded host.Value
  | .unsigned width, json => do return BitVec.ofNat width.bits (← json.toNat)
  | .i64, json => do return BitVec.ofInt 64 (← json.toInt)
  | .word, json => json.toWord
  | .ratio, json => json.toDouble
  | .duration, json => json.toDuration
  | .timestamp, json => json.toTimestamp
  | .enumeration declared, json => do
      match declared.ofName? (← json.toText) with
      | some variant => .ok variant
      | none => .error "unknown variant"

/-- Writes a value of a unit. -/
def valueToJson : (host : HostUnit) → host.Value → Json
  | .unsigned _, value => Json.ofNat value.toNat
  | .i64, value => Json.ofInt value.toInt
  | .word, value => Json.ofWord value
  | .ratio, value => Json.ofDouble value
  | .duration, value => Json.ofDuration value
  | .timestamp, value => Json.ofTimestamp value
  | .enumeration declared, value => .string (declared.variantName value)

/-- Writes a word that is paired with its unit, with what it converts to. -/
def rawToJson (host : HostUnit) (raw : Word) : Json :=
  .object
    [("raw", Json.ofWord raw),
      ("value", Json.ofResult ConversionError.toJson host.valueToJson (host.fromWire raw))]

end HostUnit

namespace SlotType

/-- The slot type that characters name. -/
def ofCharacters (declared : List WireEnum) : List Char → Decoded SlotType
  | 'v' :: 'e' :: 'c' :: ':' :: item => (ofCharacters declared item).map .list
  | 'p' :: 'a' :: 'r' :: 'a' :: 'm' :: ':' :: host =>
      (HostUnit.ofText declared (String.ofList host)).map .raw
  | characters =>
      match String.ofList characters with
      | "bool" => .ok .bool
      | "address" => .ok .address
      | "bytes32" => .ok .bytes32
      | "bytes" => .ok .bytes
      | "string" => .ok .string
      | text => (HostUnit.ofText declared text).map .unit

/-- Reads a slot type. -/
def ofJson (declared : List WireEnum) (json : Json) : Decoded SlotType := do
  ofCharacters declared (← json.toText).toList

/-- Reads a value of a slot type. -/
def valueOfJson : (type : SlotType) → Json → Decoded type.Value
  | .bool, json => json.toFlag
  | .address, json => json.toAddress
  | .bytes32, json => json.toHash
  | .bytes, json => json.toBytes
  | .string, json => json.toText
  | .unit host, json => host.valueOfJson json
  | .raw _, json => json.toWord
  | .list item, json => json.toList item.valueOfJson

/-- Writes a value of a slot type. -/
def valueToJson : (type : SlotType) → type.Value → Json
  | .bool, value => .bool value
  | .address, value => Json.ofAddress value
  | .bytes32, value => Json.ofHash value
  | .bytes, value => Json.ofBytes value
  | .string, value => .string value
  | .unit host, value => host.valueToJson value
  | .raw host, value => host.rawToJson value
  | .list item, values => Json.ofList item.valueToJson values

end SlotType

/-- Writes a value of any slot type. -/
def Datum.toJson (datum : Datum) : Json := datum.type.valueToJson datum.value

/-- Reads how a setting is carried in a proposal. -/
def ProposalType.ofJson : Json → Decoded ProposalType :=
  Json.toNamed ProposalType.name [.uint256, .bool, .address]

/-- Reads what a setting stands for. -/
def SettingKind.ofJson : Json → Decoded SettingKind :=
  Json.toNamed SettingKind.name [.bool, .uint, .ratio, .count, .duration, .timestamp, .address]

namespace SettingValue

/-- Reads a value of a setting. -/
def ofJson (json : Json) : Decoded SettingValue := do
  let kind ← json.required "kind" SettingKind.ofJson
  return ⟨kind, ← json.required "value" kind.slotType.valueOfJson⟩

/-- Writes a value of a setting. -/
def toJson (value : SettingValue) : Json :=
  .object
    [("kind", .string value.kind.name), ("value", value.kind.slotType.valueToJson value.value)]

end SettingValue

/-- Writes an entry of the settings. -/
def SettingEntry.toJson (entry : SettingEntry) : Json :=
  .object
    [("path", .string entry.path), ("kind", .string entry.kind.name),
      ("contract", .string entry.field.contract.name)]

end ContractGateway
