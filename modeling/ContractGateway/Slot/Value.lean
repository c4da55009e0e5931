import ContractGateway.Abi.Decoding
import ContractGateway.HostUnit

/-!
# Slot values

What a read yields and a write sends: flags, addresses, words, byte strings, texts, numbers in a
host unit, raw words whose unit is applied later, and lists of any of these. `fromAbi` takes the
outputs of a method apart, `toAbi` makes the argument of a setter.
-/

namespace ContractGateway

/-- Why a slot cannot be filled from return data. -/
inductive SlotError where
  | data (cause : Abi.DecodeError)
  | outputCount (actual : Nat)
  | shape (expected : String) (actual : AbiValue)
  | absent
  | conversion (cause : ConversionError)
  deriving Repr

namespace SlotError

/-- What is wrong, without naming the slot. -/
def reason : SlotError → String
  | .data cause => cause.message
  | .outputCount actual => "expected 1 return value, got " ++ toString actual
  | .shape expected actual => "expected " ++ expected ++ ", got " ++ actual.describeType
  | .absent => "no result for this slot in the given batch"
  | .conversion cause => cause.message

/-- The wording of a slot failure by itself. -/
def message : SlotError → String
  | .conversion cause => cause.message
  | error => "decode failed: " ++ error.reason

end SlotError

/-- The host type of a slot. -/
inductive SlotType where
  | bool
  | address
  | bytes32
  | bytes
  | string
  | unit (host : HostUnit)
  | raw (host : HostUnit)
  | list (item : SlotType)
  deriving DecidableEq, Repr

namespace SlotType

/-- The values of a slot type. -/
@[reducible] def Value : SlotType → Type
  | .bool => Bool
  | .address => Address
  | .bytes32 => Word
  | .bytes => Bytes
  | .string => String
  | .unit host => host.Value
  | .raw _ => Word
  | .list item => List item.Value

/-- The only output of a method. -/
def single : List AbiValue → Except SlotError AbiValue
  | [value] => .ok value
  | values => .error (.outputCount values.length)

/-- The word of an unsigned integer of any width. -/
def wordOf : AbiValue → Except SlotError Word
  | .uint word _ => .ok word
  | value => .error (.shape "uint" value)

/-- A conversion on the way into a slot. -/
def converted {α : Type} (result : Except ConversionError α) : Except SlotError α :=
  result.mapError .conversion

/-- The slot value of one ABI value; the items of a list are taken in order. -/
def ofAbi : (type : SlotType) → AbiValue → Except SlotError type.Value
  | .bool, .bool value => .ok value
  | .bool, value => .error (.shape "bool" value)
  | .address, .address value => .ok value
  | .address, value => .error (.shape "address" value)
  | .bytes32, .fixedBytes word 32 => .ok word
  | .bytes32, value => .error (.shape "bytes32" value)
  | .bytes, .bytes value => .ok value
  | .bytes, value => .error (.shape "bytes" value)
  | .string, .string value => .ok value
  | .string, value => .error (.shape "string" value)
  | .unit host, value => do
      let word ← wordOf value
      converted (host.fromWire word)
  | .raw _, value => wordOf value
  | .list item, .array values => values.mapM (ofAbi item)
  | .list item, .fixedArray values => values.mapM (ofAbi item)
  | .list _, value => .error (.shape "array" value)

/-- The slot value of a method's outputs. -/
def fromAbi (type : SlotType) (outputs : List AbiValue) : Except SlotError type.Value := do
  let value ← single outputs
  ofAbi type value

/-- The width that a number of a unit is sent with. -/
def unitBits : HostUnit → Nat
  | .enumeration _ => 8
  | _ => 256

/-- The ABI value that a slot value is sent as. -/
def toAbi : (type : SlotType) → type.Value → Except ConversionError AbiValue
  | .bool, value => .ok (.bool value)
  | .address, value => .ok (.address value)
  | .bytes32, value => .ok (.fixedBytes value 32)
  | .bytes, value => .ok (.bytes value)
  | .string, value => .ok (.string value)
  | .unit host, value => do
      let word ← host.toWire value
      return .uint word (unitBits host)
  | .raw _, value => .ok (.uint value 256)
  | .list item, values => do
      let items ← values.mapM (toAbi item)
      return .array items

end SlotType

/-- The number of bits up to the highest one set. -/
def bitLength (value : Nat) : Nat := if value = 0 then 0 else Nat.log2 value + 1

mutual

/--
Gives integers the width of the parameter they are sent as; signed parameters take the integers
that stay positive. Arrays are fitted item by item, everything else passes unchanged.
-/
def AbiValue.fitTo : AbiValue → AbiType → Except ConversionError AbiValue
  | .uint value _, .uint bits =>
      if bits < bitLength value.toNat then .error (.overflow "uint" (toString value.toNat))
      else .ok (.uint value bits)
  | .uint value _, .int bits =>
      if bits ≤ bitLength value.toNat then .error (.overflow "int" (toString value.toNat))
      else .ok (.int value bits)
  | .array items, .array item => do
      let fitted ← AbiValue.fitAll items item
      return .array fitted
  | .array items, .fixedArray item _ => do
      let fitted ← AbiValue.fitAll items item
      return .fixedArray fitted
  | .fixedArray items, .fixedArray item _ => do
      let fitted ← AbiValue.fitAll items item
      return .fixedArray fitted
  | value, _ => .ok value

/-- Fits several values to one type; the first that does not fit fails. -/
def AbiValue.fitAll : List AbiValue → AbiType → Except ConversionError (List AbiValue)
  | [], _ => .ok []
  | value :: rest, type => do
      let fitted ← value.fitTo type
      let more ← AbiValue.fitAll rest type
      return fitted :: more

end

end ContractGateway
