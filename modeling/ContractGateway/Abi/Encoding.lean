import ContractGateway.Abi.Parameter
import ContractGateway.Abi.Value
import ContractGateway.Crypto.Keccak
import ContractGateway.Text.Utf8

/-!
# ABI encoding

A sequence of values is a head part and a tail part. A static value stands in the head; a
dynamic one leaves in the head the offset of its body, counted from the start of the sequence,
and puts the body into the tail. Arrays and tuples nest sequences; a dynamic array puts its
length in front.

Arguments are checked before they are encoded: their count, then one by one whether the
parameter names a type and whether the argument fits it.
-/

namespace ContractGateway.Abi

/-- Bytes filled up with zeros to a whole number of words. -/
def padded (bytes : Bytes) : Bytes :=
  bytes ++ Bytes.zeros ((32 - bytes.length % 32) % 32)

/-- A number as a word. -/
def word (value : Nat) : Bytes := Bytes.ofNat 32 value

/-- The length of a byte string, then the byte string filled up with zeros. -/
def counted (bytes : Bytes) : Bytes := word bytes.length ++ padded bytes

/-- One member of a sequence: whether it is dynamic, and its body. -/
abbrev Part := Bool × Bytes

/-- The size of the head part of a sequence. -/
def headSize : List Part → Nat
  | [] => 0
  | (isDynamic, body) :: rest => (if isDynamic then 32 else body.length) + headSize rest

/-- The head and the tail part of a sequence whose next dynamic body lies at `offset`. -/
def layOut (offset : Nat) : List Part → Bytes × Bytes
  | [] => ([], [])
  | (true, body) :: rest =>
      let (heads, tails) := layOut (offset + body.length) rest
      (word offset ++ heads, body ++ tails)
  | (false, body) :: rest =>
      let (heads, tails) := layOut offset rest
      (body ++ heads, tails)

/-- A sequence: its head part, then its tail part. -/
def assemble (parts : List Part) : Bytes :=
  let (heads, tails) := layOut (headSize parts) parts
  heads ++ tails

mutual

/-- The body of a value. -/
def body : AbiValue → Bytes
  | .bool value => word value.toNat
  | .int value _ => value.toBytes
  | .uint value _ => value.toBytes
  | .fixedBytes value _ => value.toBytes
  | .address value => word value.toNat
  | .function value => Bytes.ofNat 24 value.toNat ++ Bytes.zeros 8
  | .bytes value => counted value
  | .string value => counted (Utf8.encode value)
  | .array items => word items.length ++ assemble (parts items)
  | .fixedArray items => assemble (parts items)
  | .tuple items => assemble (parts items)

/-- The members of a sequence. -/
def parts : List AbiValue → List Part
  | [] => []
  | value :: rest => (value.isDynamic, body value) :: parts rest

end

/-- The encoding of a list of values. -/
def encode (values : List AbiValue) : Bytes := assemble (parts values)

/-- Why values cannot be encoded for a list of parameters. -/
inductive EncodeError where
  | wrongCount (expected actual : Nat)
  | unresolved (cause : AbiType.Unresolved)
  | mismatch (expected : AbiType) (value : AbiValue)
  deriving Repr

/-- The wording of an encoding failure. -/
def EncodeError.message : EncodeError → String
  | .wrongCount expected actual =>
      "encode length mismatch: expected " ++ toString expected ++ " types, got " ++
        toString actual
  | .unresolved cause => cause.message
  | .mismatch expected value =>
      "type mismatch: expected type \"" ++ expected.name ++ "\", got value with type \"" ++
        value.typeName ++ "\""

/-- Checks values one by one against the parameters they stand for. -/
def checkEach : List Parameter → List AbiValue → Except EncodeError Unit
  | parameter :: parameters, value :: values =>
      match parameter.resolve with
      | .error cause => .error (.unresolved cause)
      | .ok type =>
          if value.fits type then checkEach parameters values else .error (.mismatch type value)
  | _, _ => .ok ()

/-- Encodes values for a list of parameters. -/
def encodeFor (parameters : List Parameter) (values : List AbiValue) :
    Except EncodeError Bytes := do
  if parameters.length ≠ values.length then
    throw (.wrongCount parameters.length values.length)
  checkEach parameters values
  return encode values

end ContractGateway.Abi
