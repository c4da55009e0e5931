import ContractGateway.Proofs.Abi.Arguments
import ContractGateway.Proofs.Abi.Unique
import ContractGateway.Proofs.Field.ReadBack

/-!
# Strict reads undo the encoding

A getter may have any number of outputs. A read takes their encoding for exactly the values that
went into it, whatever the slot makes of them, and a value that is read comes from outputs whose
encoding the data is: `Field.read_exact`. Void outputs are left out, since the decoder looks at
nothing for them, and so are values that are nested more deeply than it follows.
-/

namespace ContractGateway

open Abi AbiValue

namespace Abi

variable {parameters : List Parameter}

/-- When all parameters name types, the outputs are read by these types. -/
theorem decodeParameters_eq
    {types : List AbiType}
    (resolves : Parameter.resolveAll parameters = .ok types)
    (reader : Reader) :
    decodeParameters parameters reader = decodeOutputs types reader := by
  induction parameters generalizing types reader with
  | nil =>
      cases resolves
      rfl
  | cons parameter rest inductionHypothesis =>
      obtain ⟨type, others, first, later, rfl⟩ :=
        (Parameter.resolveAll_cons_iff parameter rest types).mp resolves
      rw [decodeParameters, decodeOutputs, first, Results.mapError_ok]
      change (decodeOutput type reader >>= _) = _
      cases decodeOutput type reader with
      | error cause => rfl
      | ok found =>
          obtain ⟨value, next⟩ := found
          change (decodeParameters rest next >>= _) = _
          rw [inductionHypothesis later next]
          rfl

/-- The values that data holds by the parameters of a method, whatever stands behind them. -/
def outputs (parameters : List Parameter) (data : Bytes) : Except DecodeError (List AbiValue) :=
  (decodeParameters parameters (.start data 0)).map (·.1)

/-- Data is accepted when the values that it holds encode to it. -/
theorem decodeStrict_eq_ok_iff_encodeFor
    (data : Bytes)
    (values : List AbiValue) :
    decodeStrict parameters data = .ok values ↔
      outputs parameters data = .ok values ∧ encodeFor parameters values = .ok data := by
  constructor
  · intro accepted
    obtain ⟨⟨found, next⟩, decoded, accepted⟩ := Results.exists_ok_of_bind accepted
    obtain ⟨canonical, encoded, accepted⟩ := Results.exists_ok_of_bind accepted
    have encodes := Results.ok_of_mapError encoded
    split at accepted
    · rename_i same
      cases accepted
      exact ⟨by rw [outputs, decoded]; rfl, same ▸ encodes⟩
    · cases accepted
  · rintro ⟨decoded, encoded⟩
    obtain ⟨⟨found, next⟩, read, rfl⟩ := Results.exists_ok_of_map decoded
    rw [decodeStrict, read]
    change ((encodeFor parameters found).mapError _ >>= _) = _
    rw [encoded]
    exact if_pos rfl

end Abi

namespace Field

variable {slot : SlotType}

/-- What is read is made from the outputs that were accepted. -/
theorem exists_outputs_of_read
    (field : Field slot)
    {data : Bytes}
    {value : slot.Value}
    (reads : field.read data = .ok value) :
    ∃ values,
      decodeStrict field.getter.outputs data = .ok values ∧ slot.fromAbi values = .ok value := by
  obtain ⟨values, accepted, filled⟩ := Results.exists_ok_of_bind reads
  exact ⟨values, Results.ok_of_mapError accepted, filled⟩

/-- Within the limit of the decoder, a read takes the encoding of the outputs for the outputs. -/
theorem read_encode_of_occupied
    (field : Field slot)
    {types : List AbiType}
    (resolves : Parameter.resolveAll field.getter.outputs = .ok types)
    (occupied : ∀ type ∈ types, type.isVoid = false)
    {values : List AbiValue}
    (members : eachFits values types = true)
    (addressable : AddressableAll values)
    (within : deepest values ≤ depthLimit) :
    field.read (Abi.encode values) = slot.fromAbi values := by
  have decoded : outputs field.getter.outputs (Abi.encode values) = .ok values := by
    rw [outputs, decodeParameters_eq resolves]
    exact decode_encode members occupied addressable within
  have encoded := (encodeFor_eq_ok_iff _ _ _).mpr ⟨types, resolves, members, rfl⟩
  rw [read, (decodeStrict_eq_ok_iff_encodeFor _ _).mpr ⟨decoded, encoded⟩]
  rfl

/--
Reads and the encoding of outputs undo each other. The encoding of values of the declared types is
read as the slot takes these values, if none of the types is void and the values are not nested more
deeply than the decoder follows. Data that a value is read from is the encoding of the outputs it
was decoded to, so no other data of which a value is read is decoded to the same outputs.
-/
theorem read_exact (field : Field slot) :
    (∀ types,
        Parameter.resolveAll field.getter.outputs = .ok types →
        (∀ type ∈ types, type.isVoid = false) →
        ∀ values,
          eachFits values types = true → AddressableAll values → deepest values ≤ depthLimit →
            field.read (Abi.encode values) = slot.fromAbi values) ∧
      (∀ data value,
        field.read data = .ok value →
          ∃ values,
            outputs field.getter.outputs data = .ok values ∧
              encodeFor field.getter.outputs values = .ok data ∧
              slot.fromAbi values = .ok value) ∧
      ∀ data other value otherValue,
        field.read data = .ok value →
        field.read other = .ok otherValue →
        outputs field.getter.outputs other = outputs field.getter.outputs data →
          other = data := by
  have opened {data : Bytes} {value : slot.Value} (reads : field.read data = .ok value) :
      ∃ values,
        outputs field.getter.outputs data = .ok values ∧
          encodeFor field.getter.outputs values = .ok data ∧ slot.fromAbi values = .ok value := by
    obtain ⟨values, accepted, filled⟩ := field.exists_outputs_of_read reads
    obtain ⟨decoded, encoded⟩ := (decodeStrict_eq_ok_iff_encodeFor _ _).mp accepted
    exact ⟨values, decoded, encoded, filled⟩
  refine ⟨fun types resolves occupied values members addressable within => ?_,
    fun data value reads => opened reads, ?_⟩
  · exact field.read_encode_of_occupied resolves occupied members addressable within
  · intro data other value otherValue reads otherReads same
    obtain ⟨values, decoded, encoded, -⟩ := opened reads
    obtain ⟨others, otherDecoded, otherEncoded, -⟩ := opened otherReads
    rw [decoded, otherDecoded] at same
    obtain rfl := Except.ok.inj same
    exact Except.ok.inj (otherEncoded.symm.trans encoded)

end Field

/-- Two lists of numbers are read from the encoding of two arrays. -/
theorem read_exact_nested :
    let field := storedField (.list (.list hostNumber)) "uint64[][2]"
    let values : List AbiValue := [.fixedArray [.array [.uint 5 64, .uint 7 64], .array []]]
    eachFits values [.fixedArray (.array (.uint 64)) 2] = true ∧
      AddressableAll values ∧
      deepest values ≤ depthLimit ∧
      field.read (Abi.encode values) = .ok [[(5 : BitVec 64), (7 : BitVec 64)], []] := by
  intro field values
  have members : eachFits values [.fixedArray (.array (.uint 64)) 2] = true := by decide
  have addressable : AddressableAll values := ⟨by decide, by decide +kernel⟩
  have within : deepest values ≤ depthLimit := by decide
  refine ⟨members, addressable, within, ?_⟩
  exact field.read_exact.1 _ rfl (by decide) values members addressable within

/-- A flag inside of some arrays of one item each. -/
def boxedFlag : (boxes : Nat) → AbiValue
  | 0 => .bool true
  | boxes + 1 => .fixedArray [boxedFlag boxes]

/-- The type of a flag inside of some arrays of one item each. -/
def boxedFlagType : (boxes : Nat) → AbiType
  | 0 => .bool
  | boxes + 1 => .fixedArray (boxedFlagType boxes) 1

/-- Static arrays that are nested more deeply than the decoder follows are not read back. -/
theorem read_ne_fromAbi :
    let field := storedField .bool "bool[1][1][1][1][1][1][1][1][1][1][1][1][1][1][1][1][1]"
    let values : List AbiValue := [boxedFlag 17]
    Parameter.resolveAll field.getter.outputs = .ok [boxedFlagType 17] ∧
      eachFits values [boxedFlagType 17] = true ∧
      anyDynamic values = false ∧
      SlotType.bool.fromAbi values = .error (.shape "bool" (boxedFlag 17)) ∧
      field.read (Abi.encode values) = .error (.data .tooDeep) :=
  ⟨rfl, rfl, rfl, rfl, rfl⟩

end ContractGateway
