import ContractGateway.Abi.Type
import ContractGateway.Word

/-!
# ABI values

Values as contracts see them. An integer keeps the width it was given with, and its word may be
wider than that; fixed bytes keep a whole word as well. `fits` says when a value may stand where
a type is expected, `HasType` when it is one of the values that the type is meant for.
-/

namespace ContractGateway

/-- One ABI value. -/
inductive AbiValue where
  | bool (value : Bool)
  | int (value : Word) (bits : Nat)
  | uint (value : Word) (bits : Nat)
  | fixedBytes (word : Word) (size : Nat)
  | address (value : Address)
  | function (value : BitVec 192)
  | bytes (value : Bytes)
  | string (value : String)
  | array (items : List AbiValue)
  | fixedArray (items : List AbiValue)
  | tuple (items : List AbiValue)
  deriving Repr, BEq

namespace AbiValue

mutual

/--
The type a value shows. The items of an array show their type through the first one, so an
array without items shows none.
-/
def typeOf? : AbiValue → Option AbiType
  | .bool _ => some .bool
  | .int _ bits => some (.int bits)
  | .uint _ bits => some (.uint bits)
  | .fixedBytes _ size => some (.fixedBytes size)
  | .address _ => some .address
  | .function _ => some .function
  | .bytes _ => some .bytes
  | .string _ => some .string
  | .array [] => none
  | .array (first :: _) => first.typeOf?.map .array
  | .fixedArray [] => none
  | .fixedArray (first :: rest) =>
      first.typeOf?.map (AbiType.fixedArray · (rest.length + 1))
  | .tuple items => (typesOf? items).map .tuple

/-- The types of several values, when each one shows a type. -/
def typesOf? : List AbiValue → Option (List AbiType)
  | [] => some []
  | item :: rest => do
      let shown ← item.typeOf?
      let more ← typesOf? rest
      return shown :: more

end

/-- The name of the type a value shows. -/
def typeName (value : AbiValue) : String := (value.typeOf?.map AbiType.name).getD "<none>"

mutual

/-- Whether a value may stand where a type is expected: shapes, widths and sizes agree. -/
def fits : AbiValue → AbiType → Bool
  | .bool _, .bool => true
  | .int _ bits, .int width => bits = width
  | .uint _ bits, .uint width => bits = width
  | .fixedBytes _ size, .fixedBytes width => size = width
  | .address _, .address => true
  | .function _, .function => true
  | .bytes _, .bytes => true
  | .string _, .string => true
  | .array items, .array item => allFit items item
  | .fixedArray items, .fixedArray item length => items.length = length && allFit items item
  | .tuple items, .tuple types => eachFits items types
  | _, _ => false

/-- Whether several values may all stand where one type is expected. -/
def allFit : List AbiValue → AbiType → Bool
  | [], _ => true
  | value :: rest, type => value.fits type && allFit rest type

/-- Whether several values may stand one by one where several types are expected. -/
def eachFits : List AbiValue → List AbiType → Bool
  | [], [] => true
  | value :: rest, type :: types => value.fits type && eachFits rest types
  | _, _ => false

end

mutual

/-- Whether the value is encoded behind an offset. -/
def isDynamic : AbiValue → Bool
  | .bytes _ | .string _ | .array _ => true
  | .fixedArray items | .tuple items => anyDynamic items
  | _ => false

/-- Whether one of several values is dynamic. -/
def anyDynamic : List AbiValue → Bool
  | [] => false
  | item :: rest => item.isDynamic || anyDynamic rest

end

mutual

/-- The description of a value. -/
def describe : AbiValue → String
  | .bool value => "Bool(" ++ toString value ++ ")"
  | .int value bits => "Int(" ++ toString value.toInt ++ ", " ++ toString bits ++ ")"
  | .uint value bits => "Uint(" ++ toString value.toNat ++ ", " ++ toString bits ++ ")"
  | .fixedBytes word size => "FixedBytes(" ++ Word.toHex word ++ ", " ++ toString size ++ ")"
  | .address value => "Address(" ++ Address.toHex value ++ ")"
  | .function value => "Function(" ++ Bytes.toHex (Bytes.ofNat 24 value.toNat) ++ ")"
  | .bytes value => "Bytes(" ++ Text.bracketed (value.map fun byte => toString byte.toNat) ++ ")"
  | .string value => "String(" ++ Text.quoted value ++ ")"
  | .array items => "Array(" ++ Text.bracketed (describeAll items) ++ ")"
  | .fixedArray items => "FixedArray(" ++ Text.bracketed (describeAll items) ++ ")"
  | .tuple items => "Tuple(" ++ Text.bracketed (describeAll items) ++ ")"

/-- The descriptions of several values. -/
def describeAll : List AbiValue → List String
  | [] => []
  | item :: rest => item.describe :: describeAll rest

end

/-- `Some(Uint(256))` for a value that shows a type and `None` for one that shows none. -/
def describeType (value : AbiValue) : String :=
  Text.optional (value.typeOf?.map AbiType.describe)

/--
The values that inhabit a type: unsigned integers lie below the bound of their width, signed
ones within both bounds, and fixed bytes are zero behind their size.
-/
inductive HasType : AbiValue → AbiType → Prop where
  | bool (value : Bool) : HasType (.bool value) .bool
  | int (value : Word) (bits : Nat)
      (above : -(2 ^ bits : Int) ≤ 2 * value.toInt)
      (below : 2 * value.toInt < 2 ^ bits) :
      HasType (.int value bits) (.int bits)
  | uint (value : Word) (bits : Nat)
      (below : value.toNat < 2 ^ bits) :
      HasType (.uint value bits) (.uint bits)
  | fixedBytes (word : Word) (size : Nat)
      (padded : word.toNat % 256 ^ (32 - size) = 0) :
      HasType (.fixedBytes word size) (.fixedBytes size)
  | address (value : Address) : HasType (.address value) .address
  | function (value : BitVec 192) : HasType (.function value) .function
  | bytes (value : Bytes) : HasType (.bytes value) .bytes
  | string (value : String) : HasType (.string value) .string
  | array (items : List AbiValue) (item : AbiType)
      (members : ∀ value ∈ items, HasType value item) :
      HasType (.array items) (.array item)
  | fixedArray (items : List AbiValue) (item : AbiType)
      (members : ∀ value ∈ items, HasType value item) :
      HasType (.fixedArray items) (.fixedArray item items.length)
  | nil : HasType (.tuple []) (.tuple [])
  | cons (value : AbiValue) (values : List AbiValue) (type : AbiType) (types : List AbiType)
      (first : HasType value type)
      (rest : HasType (.tuple values) (.tuple types)) :
      HasType (.tuple (value :: values)) (.tuple (type :: types))

end AbiValue

end ContractGateway
