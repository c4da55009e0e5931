import ContractGateway.Proofs.Field.StrictReads
import ContractGateway.Proofs.Field.Writing

/-!
# Reading back what was written

A getter that answers with the very argument a write sent gives the written value back when the
argument holds no signed integer and the decoder follows its nesting; otherwise the read fails for
the form of the data and gives no other value: `Field.read_of_write`. Numbers come from contracts as
unsigned words, so signed parameters can be written but not read.
-/

namespace ContractGateway

open Abi AbiValue

namespace Field

variable {slot : SlotType}

/-- A write that is built sends the fitted value behind the bound arguments. -/
theorem exists_argument_of_write
    (field : Field slot)
    {setter : Method}
    {parameter : Parameter}
    {type : AbiType}
    (writes : field.setter = some setter)
    (last : setter.inputs.getLast? = some parameter)
    (resolves : parameter.resolve = .ok type)
    {value : slot.Value}
    {options : SigningOptions}
    {prepared : PreparedWrite}
    (built : field.write value options = .ok prepared) :
    ∃ argument,
      fittedValue parameter value = .ok argument ∧
        argument.fits type = true ∧
        prepared.calldata = setter.selector ++ Abi.encode (field.arguments ++ [argument]) := by
  obtain ⟨writing, rfl⟩ := exists_writing_of_write built
  obtain rfl : setter = writing.setter := Option.some.inj (writes.symm.trans writing.attached)
  rw [writing.inputs, List.getLast?_concat] at last
  obtain rfl : writing.parameter = parameter := Option.some.inj last
  obtain rfl : writing.type = type := Except.ok.inj (writing.valueType.symm.trans resolves)
  have fitting := ((SlotType.resized_iff writing.sent).mpr writing.resized).2
  exact ⟨writing.argument, writing.fittedValue_eq, fitting, rfl⟩

/-- The encoding of an argument fills the slot with it, or is refused if it is too deep. -/
theorem read_encode
    (field : Field slot)
    {output : Parameter}
    {type : AbiType}
    (outputs : field.getter.outputs = [output])
    (gives : output.resolve = .ok type)
    (occupied : type.isVoid = false)
    {argument : AbiValue}
    (fitting : argument.fits type = true)
    (addressable : argument.Addressable) :
    (argument.levels ≤ depthLimit → field.read (Abi.encode [argument]) = slot.ofAbi argument) ∧
      (¬ argument.levels ≤ depthLimit →
        ∃ error, field.read (Abi.encode [argument]) = .error error ∧ error.isDecode = true) := by
  have accepts := decodeStrict_encode_eq_ok_iff gives occupied fitting addressable
  rw [← outputs] at accepts
  refine ⟨fun within => ?_, fun refused => ?_⟩
  · exact field.read_of_decodeStrict_ok ((accepts [argument]).mpr ⟨rfl, within⟩)
  · cases decoded : decodeStrict field.getter.outputs (Abi.encode [argument]) with
    | error cause => exact ⟨_, field.read_of_decodeStrict_error decoded, rfl⟩
    | ok found => exact absurd ((accepts found).mp decoded).2 refused

/--
A getter that answers with the argument that a write sent gives the written value back exactly when
the argument holds no signed integer and the decoder follows its nesting. Otherwise the read fails
for the form of the data. Nothing is said of void types, whose values take up nothing.
-/
theorem read_of_write
    (field : Field slot)
    (exact : slot.isExact = true)
    {setter : Method}
    {input output : Parameter}
    {type : AbiType}
    (writes : field.setter = some setter)
    (last : setter.inputs.getLast? = some input)
    (takes : input.resolve = .ok type)
    (outputs : field.getter.outputs = [output])
    (gives : output.resolve = .ok type)
    (occupied : type.isVoid = false)
    {value : slot.Value}
    {options : SigningOptions}
    {prepared : PreparedWrite}
    (built : field.write value options = .ok prepared) :
    ∃ argument,
      fittedValue input value = .ok argument ∧
        prepared.calldata = setter.selector ++ Abi.encode (field.arguments ++ [argument]) ∧
        (argument.Addressable →
          let restorable := argument.holdsSigned = false ∧ argument.levels ≤ depthLimit
          (restorable → field.read (Abi.encode [argument]) = .ok value) ∧
            (¬ restorable →
              ∃ error,
                field.read (Abi.encode [argument]) = .error error ∧ error.isDecode = true)) := by
  obtain ⟨argument, fitted, fitting, calldata⟩ :=
    field.exists_argument_of_write writes last takes built
  refine ⟨argument, fitted, calldata, fun addressable => ?_⟩
  obtain ⟨raw, sent, fitted⟩ := exists_raw_of_fittedValue takes fitted
  have restores := SlotType.restores_of_fitTo exact sent fitted
  obtain ⟨opened, refused⟩ := field.read_encode outputs gives occupied fitting addressable
  refine ⟨fun ⟨unsigned, within⟩ => ?_, fun spoiled => ?_⟩
  · rw [opened within]
    rw [unsigned] at restores
    exact restores
  · by_cases within : argument.levels ≤ depthLimit
    · have signed : argument.holdsSigned = true := by
        rw [← Bool.not_eq_false]
        exact fun unsigned => spoiled ⟨unsigned, within⟩
      rw [opened within]
      rw [signed] at restores
      exact restores
    · exact refused within

end Field

/-- A value that is written and read as one declared type. -/
def storedField (slot : SlotType) (declared : String) : Field slot where
  contract := ⟨"vault", 0xAA, []⟩
  getter := ⟨"stored", [], [.mk declared []], .view⟩
  setter := some (store declared)
where
  store (declared : String) : Method := ⟨"store", [.mk declared []], [], .nonpayable⟩

/-- The write that stores an argument. -/
def storing (declared : String) (argument : AbiValue) : PreparedWrite where
  target := 0xAA
  label := "vault.store"
  calldata := (storedField.store declared).selector ++ Abi.encode [argument]
  options := {}

/-- A number of 64 bits on the host. -/
def hostNumber : SlotType := .unit (.unsigned .u64)

/-- What is stored unsigned is read back. -/
theorem read_of_write_unsigned :
    let field := storedField hostNumber "uint32"
    let argument : AbiValue := .uint 7 32
    field.write (7 : BitVec 64) {} = .ok (storing "uint32" argument) ∧
      argument.Addressable ∧
      field.read (Abi.encode [argument]) = .ok (7 : BitVec 64) := by
  intro field argument
  have resolves : (Parameter.mk "uint32" []).resolve = .ok (.uint 32) := rfl
  have built : field.write (7 : BitVec 64) {} = .ok (storing "uint32" argument) := rfl
  have addressable : argument.Addressable := ⟨by decide, by decide +kernel⟩
  obtain ⟨sent, fitted, -, reads⟩ :=
    field.read_of_write rfl rfl rfl resolves rfl resolves rfl built
  have same : @Field.fittedValue hostNumber (.mk "uint32" []) (7 : BitVec 64) = .ok argument := rfl
  obtain rfl := Except.ok.inj (same.symm.trans fitted)
  have restored := (reads addressable).1 ⟨rfl, by decide⟩
  exact ⟨built, addressable, restored⟩

/-- What is stored as a signed integer is not read back. -/
theorem read_of_write_spoiled :
    let field := storedField hostNumber "int32"
    let argument : AbiValue := .int 5 32
    field.write (5 : BitVec 64) {} = .ok (storing "int32" argument) ∧
      field.read (Abi.encode [argument]) = .error (.shape "uint" argument) :=
  ⟨rfl, rfl⟩

end ContractGateway
