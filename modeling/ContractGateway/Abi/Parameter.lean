import ContractGateway.Abi.Type
import ContractGateway.Abi.TypeText

/-!
# Parameters

What a method declares about one of its arguments or results: a type text, and for a tuple its
components, beside the text `tuple` and the array suffixes that follow it.

`Parameter.resolve` gives the type of a parameter, `Parameter.signature` the text that stands for
it in the signature of its method.
-/

namespace ContractGateway

namespace AbiType

/-- Why a type text gives no type. -/
inductive Unresolved where
  | malformed (cause : TypeText.Malformed)
  | unknownName (word : String)
  | badWidth (word : String)
  deriving DecidableEq, Repr

/-- The wording of an unresolved type text. -/
def Unresolved.message : Unresolved → String
  | .malformed cause => cause.message
  | .unknownName word => "invalid type string: " ++ word
  | .badWidth word => "invalid size for type: " ++ word

/-- The type of a word whose width follows it in digits, if the width is one of the type's. -/
def sized
    (word : String)
    (digits : List Char)
    (admits : Nat → Bool)
    (make : Nat → AbiType) : Except Unresolved AbiType :=
  if digits.all Char.isDigit && admits (TypeText.decimal digits) then
    .ok (make (TypeText.decimal digits))
  else .error (.badWidth word)

/-- Whether integers can be that many bits wide. -/
def admitsBits (bits : Nat) : Bool := bits ≠ 0 && bits ≤ 256 && bits % 8 = 0

/-- Whether byte strings of a fixed size can be that many bytes long. -/
def admitsSize (size : Nat) : Bool := size ≠ 0 && size ≤ 32

/-- The type with a width that a word names. What begins like one has a width or is at fault. -/
def ofSizedName (word : String) : Except Unresolved AbiType :=
  let after (stem : String) := TypeText.afterWord? stem word.toList
  match after "bytes", after "uint", after "int" with
  | some digits, _, _ => sized word digits admitsSize .fixedBytes
  | _, some digits, _ => sized word digits admitsBits .uint
  | _, _, some digits => sized word digits admitsBits .int
  | none, none, none => .error (.unknownName word)

/-- The type that a name stands for. An integer without a width has the greatest one. -/
def ofName : (word : String) → Except Unresolved AbiType
  | "address" => .ok .address
  | "function" => .ok .function
  | "bool" => .ok .bool
  | "string" => .ok .string
  | "bytes" => .ok .bytes
  | "uint" => .ok (.uint 256)
  | "int" => .ok (.int 256)
  | word => ofSizedName word

end AbiType

namespace TypeText

mutual

/--
The type that a text stands for. A type that belongs to a contract is an enumeration, which is
carried as `uint8`.
-/
def resolve : TypeText → Except AbiType.Unresolved AbiType
  | .name word => AbiType.ofName word
  | .member _ _ => .ok (.uint 8)
  | .list items => (resolveAll items).map .tuple
  | .array item length => item.resolve.map (·.arrayOf length)

/-- The types of several texts; the first that has none fails. -/
def resolveAll : List TypeText → Except AbiType.Unresolved (List AbiType)
  | [] => .ok []
  | item :: rest => do
      let item ← item.resolve
      let rest ← resolveAll rest
      return item :: rest

end

/-- The arrays of a text, around another item than the text's own. -/
def around (item : AbiType) : TypeText → AbiType
  | .array inner length => (around item inner).arrayOf length
  | _ => item

end TypeText

/-- A declared parameter: its type text, and the components of a tuple. -/
inductive Parameter where
  | mk (text : String) (components : List Parameter)
  deriving Repr

namespace Parameter

/-- The declared type text. -/
def text : Parameter → String
  | .mk text _ => text

/-- The components that make the parameter a tuple. -/
def components : Parameter → List Parameter
  | .mk _ components => components

mutual

/-- The type of a parameter: of its components when it has any, of its text otherwise. -/
def resolve : Parameter → Except AbiType.Unresolved AbiType
  | .mk text components => do
      let written ← (TypeText.parse text).mapError .malformed
      if components.isEmpty then written.resolve
      else return written.around (.tuple (← resolveAll components))

/-- The types of several parameters; the first that has none fails. -/
def resolveAll : List Parameter → Except AbiType.Unresolved (List AbiType)
  | [] => .ok []
  | parameter :: rest => do
      let item ← parameter.resolve
      let items ← resolveAll rest
      return item :: items

end

mutual

/-- The text of a parameter inside a signature. -/
def signature : Parameter → String
  | .mk text components =>
      if components.isEmpty then text
      else "(" ++ ",".intercalate (signatures components) ++ ")" ++
        String.ofList ((TypeText.afterWord? "tuple" text.toList).getD [])

/-- The texts of several parameters. -/
def signatures : List Parameter → List String
  | [] => []
  | parameter :: rest => parameter.signature :: signatures rest

end

end Parameter

end ContractGateway
