import ContractGateway.Revert.Reason

/-!
# Errors that contracts declare

A contract may revert with an error of its own: the selector of the error's signature, then the
ABI encoding of its fields. `ErrorInterface.describe?` is the parser of a contract interface, which
turns revert data into the description of the error they carry. `linkedParsers` are the parsers that
the gateway's executable is linked with; the gateway itself works with whichever there are.
-/

namespace ContractGateway.Revert

/-- The first four bytes of the hash of a signature. -/
def selector (signature : String) : Bytes :=
  (Keccak.hashBytes (Utf8.encode signature)).take 4

/-- One declared error: its name, and the names and types of its fields. -/
structure DeclaredError where
  name : String
  fields : List (String × AbiType)

/-- The declared errors of one contract interface. -/
structure ErrorInterface where
  name : String
  errors : List DeclaredError

/-- The interfaces that the executable is linked with. -/
def linkedInterfaces : List ErrorInterface :=
  [{ name := "IRocketAuctionManager"
     errors :=
       [{ name := "LotDoesNotExist", fields := [("index", .uint 256)] },
        { name := "BiddingDisabled", fields := [] }] },
   { name := "IOracleVault"
     errors :=
       [{ name := "Mixed"
          fields := [("owner", .address), ("frozen", .bool), ("delta", .int 64),
            ("memo", .string)] },
        { name := "Blob"
          fields := [("payload", .bytes), ("tag", .fixedBytes 32),
            ("counts", .array (.uint 8))] }] }]

namespace DeclaredError

/-- The signature of an error. -/
def signature (declared : DeclaredError) : String :=
  declared.name ++ "(" ++ ",".intercalate (declared.fields.map fun field => field.2.name) ++ ")"

mutual

/-- The description of a field; integers keep the low bits of their width. -/
def fieldText : AbiValue → String
  | .bool value => toString value
  | .int value bits => toString (BitVec.ofNat bits value.toNat).toInt
  | .uint value bits => toString (value.toNat % 2 ^ bits)
  | .fixedBytes value size => Bytes.toHex (value.toBytes.take size)
  | .address value => Address.toHex value
  | .function value => Bytes.toHex (Bytes.ofNat 24 value.toNat)
  | .bytes value => Bytes.toHex value
  | .string value => Text.quoted value
  | .array items => Text.bracketed (fieldTexts items)
  | .fixedArray items => Text.bracketed (fieldTexts items)
  | .tuple items => Text.bracketed (fieldTexts items)

/-- The descriptions of several fields. -/
def fieldTexts : List AbiValue → List String
  | [] => []
  | value :: rest => fieldText value :: fieldTexts rest

end

/-- The description of an error from the values of its fields. -/
def describe (declared : DeclaredError) (values : List AbiValue) : String :=
  if declared.fields.isEmpty then declared.name
  else Text.record declared.name ((declared.fields.map (·.1)).zip (fieldTexts values))

/-- The description of the error behind its name, when revert data carries the error. -/
def describe? (declared : DeclaredError) (data : Bytes) : Option String :=
  if data.take 4 = selector declared.signature then
    match Abi.decode (declared.fields.map (·.2)) (data.drop 4) with
    | .ok values => some (declared.name ++ "(" ++ declared.describe values ++ ")")
    | .error _ => none
  else none

end DeclaredError

/-- The description of the error of an interface, when revert data carries one. -/
def ErrorInterface.describe? (declaring : ErrorInterface) (data : Bytes) : Option String :=
  (declaring.errors.findSome? fun declared => declared.describe? data).map fun text =>
    declaring.name ++ "::" ++ text

/-- The parsers that the executable is linked with. -/
def linkedParsers : List ErrorParser := linkedInterfaces.map ErrorInterface.describe?

end ContractGateway.Revert
