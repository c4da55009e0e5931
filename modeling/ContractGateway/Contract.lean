import ContractGateway.Gas
import ContractGateway.Revert.Interfaces
import ContractGateway.Error

/-!
# Contracts

A contract is a name, an address and its methods. A method name may be declared several times;
calls go to the first declaration. The call data of a method is the selector of its signature
followed by its encoded arguments.
-/

namespace ContractGateway

/-- Whether calling a method can change the state of the ledger. -/
inductive Mutability where
  | view
  | pure
  | nonpayable
  | payable
  deriving DecidableEq, Repr

/-- A declared method. -/
structure Method where
  name : String
  inputs : List Parameter
  outputs : List Parameter
  mutability : Mutability
  deriving Repr

namespace Method

/-- The name with the types of the inputs. -/
def signature (method : Method) : String :=
  method.name ++ "(" ++ ",".intercalate (Parameter.signatures method.inputs) ++ ")"

/-- The four bytes that select the method. -/
def selector (method : Method) : Bytes := Revert.selector method.signature

/-- Whether the method may be sent as a transaction. -/
def isWritable (method : Method) : Bool :=
  match method.mutability with
  | .view | .pure => false
  | .nonpayable | .payable => true

/-- The call data for some arguments. -/
def encodeCall (method : Method) (arguments : List AbiValue) : Except Abi.EncodeError Bytes :=
  (Abi.encodeFor method.inputs arguments).map (method.selector ++ ·)

end Method

/-- A deployed contract. -/
structure Contract where
  name : String
  address : Address
  methods : List Method
  deriving Repr

namespace Contract

/-- The text that names a method of the contract in errors. -/
def label (contract : Contract) (method : String) : String := contract.name ++ "." ++ method

/-- The first declaration of a method name. -/
def method (contract : Contract) (name : String) : Except GatewayError Method :=
  match contract.methods.find? (·.name = name) with
  | some method => .ok method
  | none => .error (.unknownMethod contract.name name)

/-- The number of distinct method names. -/
def methodNameCount (contract : Contract) : Nat :=
  (contract.methods.map (·.name)).eraseDups.length

/-- The call data of a method for some arguments, failures under a label. -/
def callData (method : Method) (label : String) (arguments : List AbiValue) :
    Except GatewayError Bytes :=
  (method.encodeCall arguments).mapError fun cause => .encode label (.arguments cause)

/-- The call data for calling a method by name. -/
def encodeCall (contract : Contract) (name : String) (arguments : List AbiValue) :
    Except GatewayError Bytes := do
  let method ← contract.method name
  callData method (contract.label name) arguments

/-- A write to a method by name; methods that only read are refused. -/
def prepare
    (contract : Contract)
    (name : String)
    (arguments : List AbiValue)
    (options : SigningOptions) : Except GatewayError PreparedWrite := do
  let method ← contract.method name
  let label := contract.label name
  if !method.isWritable then throw (.notWritable label)
  let data ← callData method label arguments
  return { target := contract.address, label, calldata := data, options }

/-- The description of a contract. -/
def describe (contract : Contract) : String :=
  Text.record "Contract"
    [("name", Text.quoted contract.name), ("address", Address.toHex contract.address)]

end Contract

end ContractGateway
