import ContractGateway.Field
import ContractGateway.Proofs.Abi.Arguments
import ContractGateway.Proofs.Slot.Resizing

/-!
# What it takes to write

`Field.Writing` lists what it takes to write a value through a field: a setter that may be sent as a
transaction, bound arguments that fit all its parameters but the last, and a form of the value that
the last one takes. With it comes the call that is made then, and there is no other way to write:
`Field.Writing.write_eq` and `Field.exists_writing_of_write`.
-/

namespace ContractGateway

open Abi AbiValue

namespace Field

variable {slot : SlotType}

/-- The value that a parameter is sent is the wire form, fitted to the type of the parameter. -/
theorem exists_raw_of_fittedValue
    {parameter : Parameter}
    {type : AbiType}
    (resolves : parameter.resolve = .ok type)
    {value : slot.Value}
    {argument : AbiValue}
    (fitted : fittedValue parameter value = .ok argument) :
    ∃ raw, slot.toAbi value = .ok raw ∧ raw.fitTo type = .ok argument := by
  obtain ⟨expected, resolved, fitted⟩ := Results.exists_ok_of_bind fitted
  obtain ⟨raw, sent, fitted⟩ := Results.exists_ok_of_bind fitted
  have same := Results.ok_of_mapError resolved
  rw [resolves] at same
  cases same
  exact ⟨raw, Results.ok_of_mapError sent, Results.ok_of_mapError fitted⟩

/-- What it takes to write a value through a field. -/
structure Writing (field : Field slot) (value : slot.Value) where
  setter : Method
  parameters : List Parameter
  parameter : Parameter
  types : List AbiType
  type : AbiType
  /-- The value as the slot sends it. -/
  raw : AbiValue
  /-- The value as the last parameter takes it. -/
  argument : AbiValue
  attached : field.setter = some setter
  writable : setter.isWritable = true
  inputs : setter.inputs = parameters ++ [parameter]
  boundTypes : Parameter.resolveAll parameters = .ok types
  valueType : parameter.resolve = .ok type
  bound : eachFits field.arguments types = true
  sent : slot.toAbi value = .ok raw
  resized : raw.Resized type argument

namespace Writing

variable {field : Field slot} {value : slot.Value} (writing : field.Writing value)

/-- The types of all inputs of the setter. -/
def inputTypes : List AbiType := writing.types ++ [writing.type]

/-- The bound arguments and the value behind them. -/
def arguments : List AbiValue := field.arguments ++ [writing.argument]

/-- The write: the call of the setter with these arguments. -/
def prepared (options : SigningOptions) : PreparedWrite where
  target := field.contract.address
  label := field.contract.label writing.setter.name
  calldata := writing.setter.selector ++ encode writing.arguments
  options := options

theorem resolves : Parameter.resolveAll writing.setter.inputs = .ok writing.inputTypes := by
  rw [writing.inputs]
  exact
    (Parameter.resolveAll_append_singleton_iff _ _ _).mpr
      ⟨writing.types, writing.type, writing.boundTypes, writing.valueType, rfl⟩

theorem fits : eachFits writing.arguments writing.inputTypes = true := by
  have fitting := ((SlotType.resized_iff writing.sent).mpr writing.resized).2
  exact (eachFits_append_singleton_iff _ _ _ _).mpr ⟨writing.bound, fitting⟩

/-- The arguments of a write are encoded, and its call data is made of that. -/
theorem callData_eq (label : String) :
    Contract.callData writing.setter label writing.arguments =
      .ok (writing.setter.selector ++ encode writing.arguments) := by
  have encodes :=
    (encodeFor_eq_ok_iff writing.setter.inputs writing.arguments _).mpr
      ⟨writing.inputTypes, writing.resolves, writing.fits, rfl⟩
  rw [Contract.callData, Method.encodeCall, encodes]
  rfl

theorem fittedValue_eq : fittedValue writing.parameter value = .ok writing.argument := by
  have fitted := ((SlotType.resized_iff writing.sent).mpr writing.resized).1
  rw [fittedValue, writing.valueType, writing.sent]
  change (writing.raw.fitTo writing.type).mapError _ = _
  rw [fitted]
  rfl

theorem write_eq (options : SigningOptions) :
    field.write value options = .ok (writing.prepared options) := by
  have last : writing.setter.inputs.getLast? = some writing.parameter := by
    rw [writing.inputs, List.getLast?_concat]
  have called := writing.callData_eq (field.contract.label writing.setter.name)
  rw [arguments] at called
  rw [write, writing.attached]
  simp only [writing.writable, last, Bool.not_true, Bool.false_eq_true, if_false]
  rw [writing.fittedValue_eq]
  change (Contract.callData _ _ _ >>= _) = _
  rw [called]
  rfl

end Writing

/-- A write that succeeds had all that it takes. -/
theorem exists_writing_of_write
    {field : Field slot}
    {value : slot.Value}
    {options : SigningOptions}
    {prepared : PreparedWrite}
    (writes : field.write value options = .ok prepared) :
    ∃ writing : field.Writing value, prepared = writing.prepared options := by
  cases attached : field.setter with
  | none =>
      rw [write, attached] at writes
      cases writes
  | some setter =>
      simp only [write, attached] at writes
      split at writes
      · cases writes
      · rename_i writable
        rw [Bool.not_eq_true, Bool.not_eq_false'] at writable
        cases last : setter.inputs.getLast? with
        | none =>
            rw [last] at writes
            cases writes
        | some parameter =>
            simp only [last] at writes
            obtain ⟨argument, fitted, writes⟩ := Results.exists_ok_of_bind writes
            obtain ⟨calldata, called, same⟩ := Results.exists_ok_of_bind writes
            -- The check of all arguments splits into that of the bound ones and of the value.
            obtain ⟨parameters, inputs⟩ := List.getLast?_eq_some_iff.mp last
            obtain ⟨data, encodes, rfl⟩ :=
              Results.exists_ok_of_map (Results.ok_of_mapError called)
            obtain ⟨all, resolves, members, rfl⟩ := (encodeFor_eq_ok_iff _ _ _).mp encodes
            rw [inputs] at resolves
            obtain ⟨types, type, boundTypes, valueType, rfl⟩ :=
              (Parameter.resolveAll_append_singleton_iff _ _ _).mp resolves
            obtain ⟨bound, fitting⟩ := (eachFits_append_singleton_iff _ _ _ _).mp members
            obtain ⟨raw, sent, resizes⟩ :=
              exists_raw_of_fittedValue valueType (Results.ok_of_mapError fitted)
            have resized := (SlotType.resized_iff sent).mp ⟨resizes, fitting⟩
            let writing : field.Writing value :=
              { setter, parameters, parameter, types, type, raw, argument, attached, writable,
                inputs, boundTypes, valueType, bound, sent, resized }
            exact ⟨writing, (Except.ok.inj same).symm⟩

/-- A write that fails has no setter to send, or arguments that cannot be encoded. -/
theorem error_of_write
    {field : Field slot}
    {value : slot.Value}
    {options : SigningOptions}
    {error : GatewayError}
    (fails : field.write value options = .error error) :
    (∃ label, error = .notWritable label) ∨ ∃ label cause, error = .encode label cause := by
  rw [write] at fails
  split at fails
  · exact .inl ⟨_, (Except.error.inj fails).symm⟩
  · rename_i setter attached
    simp only at fails
    split at fails
    · exact .inl ⟨_, (Except.error.inj fails).symm⟩
    · split at fails
      · exact .inr ⟨_, _, (Except.error.inj fails).symm⟩
      · refine .inr ?_
        rcases Results.error_of_bind fails with unfit | ⟨argument, -, fails⟩
        · obtain ⟨cause, -, same⟩ := Results.exists_error_of_mapError unfit
          exact ⟨_, cause, same.symm⟩
        · rcases Results.error_of_bind fails with uncalled | ⟨calldata, -, ⟨⟩⟩
          obtain ⟨cause, -, same⟩ := Results.exists_error_of_mapError uncalled
          exact ⟨_, _, same.symm⟩

end Field

end ContractGateway
