import ContractGateway.Batch
import ContractGateway.Contract

/-!
# Fields

A field binds a method of a contract that is read for a value of one slot type, together with
leading arguments and, optionally, the method that writes the value. It holds no value: a read
is enqueued into a batch, and a write is the setter applied to the bound arguments and the new
value.

Reads are strict: return data must be exactly what its own decoded values encode to.
-/

namespace ContractGateway

/-- A readable and possibly writable value of a contract. -/
structure Field (type : SlotType) where
  contract : Contract
  getter : Method
  arguments : List AbiValue := []
  setter : Option Method := none

namespace Field

variable {type : SlotType}

/-- Binds a method that the contract declares. -/
def bind (type : SlotType) (contract : Contract) (method : String) :
    Except GatewayError (Field type) := do
  let getter ← contract.method method
  return { contract, getter }

/-- The same field with other leading arguments. -/
def withArguments (field : Field type) (arguments : List AbiValue) : Field type :=
  { field with arguments }

/-- The same field, written by a method that the contract declares. -/
def withSetter (field : Field type) (method : String) : Except GatewayError (Field type) := do
  let setter ← field.contract.method method
  return { field with setter := some setter }

/-- The text that names the field in errors. -/
def label (field : Field type) : String := field.contract.label field.getter.name

/-- The description of a field. -/
def describe (field : Field type) : String :=
  Text.record "Field"
    [("contract", Text.quoted field.contract.name),
      ("method", Text.quoted field.getter.name),
      ("args", Text.bracketed (AbiValue.describeAll field.arguments)),
      ("setter", Text.optional (field.setter.map fun setter => Text.quoted setter.name))]

/-- The value that return data of the getter stands for. -/
def read (field : Field type) (data : Bytes) : Except SlotError type.Value := do
  let outputs ← (Abi.decodeStrict field.getter.outputs data).mapError .data
  type.fromAbi outputs

/-- The request that reads the field by its call data. -/
def request (field : Field type) (calldata : Bytes) : Request where
  target := field.contract.address
  label := field.label
  calldata := calldata
  type := type
  decode := field.read

/-- Appends the read of a field to a batch. -/
def enqueue (field : Field type) (batch : Batch) : Except GatewayError (Slot type × Batch) :=
  if batch.closed then .error .batchClosed
  else
    match Contract.callData field.getter field.label field.arguments with
    | .error error => .error error
    | .ok calldata => batch.add (field.request calldata)

/-- The argument that a value is sent as, in the width of the parameter it is sent for. -/
def fittedValue (parameter : Parameter) (value : type.Value) : Except EncodeFailure AbiValue := do
  let expected ← parameter.resolve.mapError .unresolvedValueType
  let raw ← (type.toAbi value).mapError .conversion
  (raw.fitTo expected).mapError .conversion

/-- The write that sets a field to a value. The last parameter of the setter takes the value. -/
def write
    (field : Field type)
    (value : type.Value)
    (options : SigningOptions) : Except GatewayError PreparedWrite :=
  match field.setter with
  | none => .error (.notWritable field.label)
  | some setter =>
      let label := field.contract.label setter.name
      if !setter.isWritable then .error (.notWritable label)
      else
        match setter.inputs.getLast? with
        | none => .error (.encode label .noValueParameter)
        | some parameter => do
            let argument ← (fittedValue parameter value).mapError (.encode label)
            let calldata ← Contract.callData setter label (field.arguments ++ [argument])
            return { target := field.contract.address, label, calldata, options }

end Field

end ContractGateway
