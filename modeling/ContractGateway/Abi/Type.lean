import ContractGateway.Text.Quoted

/-!
# ABI types

The types of arguments and results of contract methods, with the texts that errors show for them
and the measures that the coding of values needs: which types stand behind an offset, and how many
words a type takes up at the least.
-/

namespace ContractGateway

/-- The type of one ABI value. -/
inductive AbiType where
  | bool
  | int (bits : Nat)
  | uint (bits : Nat)
  | fixedBytes (size : Nat)
  | address
  | function
  | bytes
  | string
  | array (item : AbiType)
  | fixedArray (item : AbiType) (length : Nat)
  | tuple (items : List AbiType)
  deriving Repr, BEq

namespace AbiType

mutual

/-- The name of a type; a tuple of one item keeps a comma behind it. -/
def name : AbiType → String
  | .bool => "bool"
  | .int bits => "int" ++ toString bits
  | .uint bits => "uint" ++ toString bits
  | .fixedBytes size => "bytes" ++ toString size
  | .address => "address"
  | .function => "function"
  | .bytes => "bytes"
  | .string => "string"
  | .array item => item.name ++ "[]"
  | .fixedArray item length => item.name ++ "[" ++ toString length ++ "]"
  | .tuple items => "(" ++ ",".intercalate (names items) ++
      (if items.length = 1 then "," else "") ++ ")"

/-- The names of several types. -/
def names : List AbiType → List String
  | [] => []
  | item :: rest => item.name :: names rest

end

mutual

/-- The description of a type. -/
def describe : AbiType → String
  | .bool => "Bool"
  | .int bits => "Int(" ++ toString bits ++ ")"
  | .uint bits => "Uint(" ++ toString bits ++ ")"
  | .fixedBytes size => "FixedBytes(" ++ toString size ++ ")"
  | .address => "Address"
  | .function => "Function"
  | .bytes => "Bytes"
  | .string => "String"
  | .array item => "Array(" ++ item.describe ++ ")"
  | .fixedArray item length => "FixedArray(" ++ item.describe ++ ", " ++ toString length ++ ")"
  | .tuple items => "Tuple(" ++ Text.bracketed (describeAll items) ++ ")"

/-- The descriptions of several types. -/
def describeAll : List AbiType → List String
  | [] => []
  | item :: rest => item.describe :: describeAll rest

end

mutual

/-- Whether values of the type are encoded behind an offset. -/
def isDynamic : AbiType → Bool
  | .bytes | .string | .array _ => true
  | .fixedArray item length => length ≠ 0 && item.isDynamic
  | .tuple items => anyDynamic items
  | _ => false

/-- Whether one of several types is dynamic. -/
def anyDynamic : List AbiType → Bool
  | [] => false
  | item :: rest => item.isDynamic || anyDynamic rest

end

mutual

/-- The least number of words that an encoding of the type can take up. -/
def leastWords : AbiType → Nat
  | .fixedArray item length => length * item.leastWords
  | .tuple items => leastWordsOfAll items
  | _ => 1

/-- The least number of words of several types together. -/
def leastWordsOfAll : List AbiType → Nat
  | [] => 0
  | item :: rest => item.leastWords + leastWordsOfAll rest

end

/-- Whether the type is an empty tuple, an array of no items, or an array of such types. -/
def isVoid : AbiType → Bool
  | .array item => item.isVoid
  | .fixedArray item length => length = 0 || item.isVoid
  | .tuple [] => true
  | _ => false

/-- Whether a type is an array of arrays whose items are void. -/
def isBottomless : AbiType → Bool
  | .array (.array item) => item.isVoid
  | _ => false

/-- The array type of an item type: of any length, or of a fixed one. -/
def arrayOf (item : AbiType) : (length : Option Nat) → AbiType
  | none => .array item
  | some length => .fixedArray item length

end AbiType

end ContractGateway
