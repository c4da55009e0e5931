import ContractGateway.Proofs.Abi.Widths
import ContractGateway.Proofs.Field.Inverse

/-!
# What a write sends

A write that has all it takes is the call that the contract itself would prepare, for the bound
arguments and the value in the form of the last parameter. Its call data holds these arguments and
no others, and within its limits the decoder reads them from it: `Field.write_exact`. The encoder
has no such limits.
-/

namespace ContractGateway

open Abi AbiValue

namespace Field

variable {slot : SlotType}

/-- The fields that can be made: the first declaration of a method name is bound each time. -/
inductive Built : Field slot → Prop where
  | bind
      (contract : Contract)
      (method : String)
      (field : Field slot)
      (binds : Field.bind slot contract method = .ok field) :
      Built field
  | withArguments
      (field : Field slot)
      (arguments : List AbiValue)
      (built : Built field) :
      Built (field.withArguments arguments)
  | withSetter
      (field : Field slot)
      (method : String)
      (changed : Field slot)
      (built : Built field)
      (sets : field.withSetter method = .ok changed) :
      Built changed

theorem withSetter_eq (field : Field slot) (name : String) :
    field.withSetter name =
      match field.contract.methods.find? (·.name = name) with
      | some setter => .ok { field with setter := some setter }
      | none => .error (.unknownMethod field.contract.name name) := by
  rw [withSetter, Contract.method]
  cases field.contract.methods.find? (·.name = name) <;> rfl

/-- The setter of a field is the first declaration of its name. -/
theorem Built.method_eq
    {field : Field slot}
    (built : field.Built)
    {setter : Method}
    (attached : field.setter = some setter) :
    field.contract.method setter.name = .ok setter := by
  induction built with
  | bind contract method field binds =>
      obtain ⟨getter, -, same⟩ := Results.exists_ok_of_bind binds
      cases same
      cases attached
  | withArguments field arguments built inductionHypothesis =>
      exact inductionHypothesis attached
  | withSetter field method changed built sets inductionHypothesis =>
      obtain ⟨found, declared, same⟩ := Results.exists_ok_of_bind sets
      cases same
      obtain rfl : found = setter := Option.some.inj attached
      rw [Contract.method] at declared
      split at declared
      · rename_i other first
        cases declared
        have named : found.name = method := by simpa using List.find?_some first
        rw [Contract.method, named, first]
      · cases declared

/-- A write is the call that the contract itself prepares for the same arguments. -/
theorem Writing.prepare_eq
    {field : Field slot}
    {value : slot.Value}
    (writing : field.Writing value)
    (built : field.Built)
    (options : SigningOptions) :
    field.contract.prepare writing.setter.name writing.arguments options =
      .ok (writing.prepared options) := by
  rw [Contract.prepare, built.method_eq writing.attached]
  change (if (!writing.setter.isWritable) = true then _
    else Contract.callData writing.setter _ writing.arguments >>= _) = _
  rw [writing.writable, if_neg (by decide), writing.callData_eq]
  rfl

/-- The integers of a value are sent as they are. -/
theorem Writing.integers_eq
    {field : Field slot}
    {value : slot.Value}
    (writing : field.Writing value) :
    writing.argument.integers = writing.raw.integers :=
  writing.resized.integers_eq (Parameter.isSized_of_resolve _ writing.valueType)

/-- What a slot sends stands for the value, if the slot does not round. -/
theorem Writing.ofAbi_eq
    {field : Field slot}
    {value : slot.Value}
    (writing : field.Writing value)
    (exact : slot.isExact = true) :
    slot.ofAbi writing.raw = .ok value := by
  have restores := SlotType.restores_of_fitTo exact writing.sent (fitTo_bool writing.raw)
  rw [writing.resized.holdsSigned_eq] at restores
  exact restores

/--
A write succeeds exactly when it has all that it takes, and it is the call that the contract itself
prepares for the bound arguments and the value in the form of the last parameter. This form has the
integers of the value. The encoding in the call data belongs to no other arguments of the types of
the setter, and it is decoded to these arguments within the limits of the decoder. A write that
fails is one that is not writable or that cannot be encoded, and a setter is attached unless the
contract has no method of its name.
-/
theorem write_exact
    (field : Field slot)
    (built : field.Built)
    (value : slot.Value)
    (options : SigningOptions) :
    (∀ prepared,
        field.write value options = .ok prepared ↔
          ∃ writing : field.Writing value, prepared = writing.prepared options) ∧
      (∀ writing : field.Writing value,
        field.contract.prepare writing.setter.name writing.arguments options =
            .ok (writing.prepared options) ∧
          writing.argument.integers = writing.raw.integers ∧
          (slot.isExact = true → slot.ofAbi writing.raw = .ok value) ∧
          (AddressableAll writing.arguments →
            (∀ others,
              eachFits others writing.inputTypes = true →
                longestOfAll others < 2 ^ 64 →
                  encode others = encode writing.arguments → others = writing.arguments) ∧
              ((∀ type ∈ writing.inputTypes, type.isVoid = false) →
                deepest writing.arguments ≤ depthLimit →
                  decode writing.inputTypes (encode writing.arguments) =
                    .ok writing.arguments))) ∧
      (∀ error,
        field.write value options = .error error →
          (∃ label, error = .notWritable label) ∨ ∃ label cause, error = .encode label cause) ∧
      ∀ name,
        field.withSetter name =
          match field.contract.methods.find? (·.name = name) with
          | some setter => .ok { field with setter := some setter }
          | none => .error (.unknownMethod field.contract.name name) := by
  refine ⟨fun prepared => ⟨exists_writing_of_write, ?_⟩, fun writing => ?_,
    fun _ fails => error_of_write fails, field.withSetter_eq⟩
  · rintro ⟨writing, rfl⟩
    exact writing.write_eq options
  · refine ⟨writing.prepare_eq built options, writing.integers_eq, writing.ofAbi_eq,
      fun addressable => ⟨fun others otherMembers countable same => ?_, fun occupied within => ?_⟩⟩
    · exact encode_injective writing.fits otherMembers addressable countable same
    · exact decode_encode writing.fits occupied addressable within

end Field

/-- A contract that keeps two numbers for every account. -/
def limitsContract : Contract where
  name := "limits"
  address := 0xAA
  methods :=
    [⟨"limitsOf", [.mk "address" []], [.mk "uint256[]" []], .view⟩,
      ⟨"setLimits", [.mk "address" [], .mk "int16[2]" []], [], .nonpayable⟩,
      ⟨"setLimits", [.mk "uint8[]" []], [], .nonpayable⟩]

/-- The numbers of one account. -/
def limitsField : Field (.list (.unit (.unsigned .u64))) where
  contract := limitsContract
  getter := ⟨"limitsOf", [.mk "address" []], [.mk "uint256[]" []], .view⟩
  arguments := [.address 0xBB]
  setter := some ⟨"setLimits", [.mk "address" [], .mk "int16[2]" []], [], .nonpayable⟩

theorem limitsField_built : limitsField.Built :=
  .withSetter _ "setLimits" _
    (.withArguments _ [.address 0xBB] (.bind limitsContract "limitsOf" _ rfl)) rfl

/-- A list of two numbers is sent to the first declaration of the setter, as signed integers. -/
def limitsWriting : limitsField.Writing [(5 : BitVec 64), (300 : BitVec 64)] where
  setter := ⟨"setLimits", [.mk "address" [], .mk "int16[2]" []], [], .nonpayable⟩
  parameters := [.mk "address" []]
  parameter := .mk "int16[2]" []
  types := [.address]
  type := .fixedArray (.int 16) 2
  raw := .array [.uint 5 256, .uint 300 256]
  argument := .fixedArray [.int 5 16, .int 300 16]
  attached := rfl
  writable := rfl
  inputs := rfl
  boundTypes := rfl
  valueType := rfl
  bound := rfl
  sent := rfl
  resized :=
    .fixedArray _ _ _
      (.cons _ _ _ _ _ (.int 5 256 15 (by decide))
        (.cons _ _ _ _ _ (.int 300 256 15 (by decide)) (.nil _)))

theorem write_exact_limits :
    limitsField.Built ∧
      limitsField.write [(5 : BitVec 64), (300 : BitVec 64)] {} = .ok (limitsWriting.prepared {}) ∧
      decode [.address, .fixedArray (.int 16) 2] (encode limitsWriting.arguments) =
        .ok [.address 0xBB, .fixedArray [.int 5 16, .int 300 16]] := by
  obtain ⟨succeeds, sends, -, -⟩ :=
    limitsField.write_exact limitsField_built [(5 : BitVec 64), (300 : BitVec 64)] {}
  obtain ⟨-, -, -, read⟩ := sends limitsWriting
  have addressable : AddressableAll limitsWriting.arguments := ⟨by decide, by decide +kernel⟩
  refine ⟨limitsField_built, (succeeds _).mpr ⟨limitsWriting, rfl⟩, ?_⟩
  exact (read addressable).2 (by decide) (by decide)

/-- The setter of a flag, behind an argument with a flag inside of seventeen arrays. -/
def boxedSetter : Method where
  name := "setFlag"
  inputs := [.mk "bool[1][1][1][1][1][1][1][1][1][1][1][1][1][1][1][1][1]" [], .mk "bool" []]
  outputs := []
  mutability := .nonpayable

/-- The getter of a flag for such an argument. -/
def boxedGetter : Method where
  name := "flag"
  inputs := boxedSetter.inputs.dropLast
  outputs := [.mk "bool" []]
  mutability := .view

/-- A flag that is kept for such an argument. -/
def boxedField : Field .bool where
  contract := ⟨"vault", 0xAA, [boxedGetter, boxedSetter]⟩
  getter := boxedGetter
  arguments := [boxedFlag 17]
  setter := some boxedSetter

/-- What it takes to write the flag. -/
def boxedWriting : boxedField.Writing true where
  setter := boxedSetter
  parameters := boxedSetter.inputs.dropLast
  parameter := .mk "bool" []
  types := [boxedFlagType 17]
  type := .bool
  raw := .bool true
  argument := .bool true
  attached := rfl
  writable := rfl
  inputs := rfl
  boundTypes := rfl
  valueType := rfl
  bound := rfl
  sent := rfl
  resized := .bool true

/-- A write is accepted whose arguments are nested more deeply than the decoder follows. -/
theorem write_undecoded :
    boxedField.Built ∧
      boxedField.write true {} = .ok (boxedWriting.prepared {}) ∧
      (boxedWriting.prepared {}).calldata =
          boxedSetter.selector ++ encode boxedWriting.arguments ∧
      boxedWriting.arguments = [boxedFlag 17, .bool true] ∧
      eachFits boxedWriting.arguments boxedWriting.inputTypes = true ∧
      decode boxedWriting.inputTypes (encode boxedWriting.arguments) = .error .tooDeep :=
  ⟨.withSetter _ "setFlag" _
      (.withArguments _ [boxedFlag 17] (.bind boxedField.contract "flag" _ rfl)) rfl,
    boxedWriting.write_eq {}, rfl, rfl, boxedWriting.fits, rfl⟩

end ContractGateway
