import ContractGateway.Field
import ContractGateway.Proofs.Abi.Strict
import ContractGateway.Proofs.Slot.RoundTrip

/-!
# What a strict read lets through

A read accepts the encoding of a value of the right shape and nothing else, so whatever the shape
and the encoding settle is checked: flags, addresses, padding, offsets and trailing bytes. The width
of an integer is no part of either, and integers that are too wide get through:
`Field.readsStrictly_iff`.
-/

namespace ContractGateway

open Abi

namespace AbiValue

mutual

/-- Whether an unsigned integer in a value is too wide for its type. -/
def overflows : AbiValue → Bool
  | .uint value bits => 2 ^ bits ≤ value.toNat
  | .array items | .fixedArray items | .tuple items => anyOverflows items
  | _ => false

/-- Whether an unsigned integer in one of several values is too wide for its type. -/
def anyOverflows : List AbiValue → Bool
  | [] => false
  | value :: rest => value.overflows || anyOverflows rest

end

theorem allFit_iff
    {values : List AbiValue}
    {type : AbiType} :
    allFit values type = true ↔ ∀ value ∈ values, value.fits type = true := by
  induction values with
  | nil => simp [allFit]
  | cons first rest inductionHypothesis => simp [allFit, inductionHypothesis]

theorem anyOverflows_eq_false_iff {values : List AbiValue} :
    anyOverflows values = false ↔ ∀ value ∈ values, value.overflows = false := by
  induction values with
  | nil => simp [anyOverflows]
  | cons first rest inductionHypothesis => simp [anyOverflows, inductionHypothesis]

/-- A value of a type has its shape. -/
theorem fits_of_hasType
    {value : AbiValue}
    {type : AbiType}
    (typed : HasType value type) :
    value.fits type = true := by
  induction typed with
  | array items item members inductionHypothesis =>
      exact allFit_iff.mpr inductionHypothesis
  | fixedArray items item members inductionHypothesis =>
      simpa [fits] using allFit_iff.mpr inductionHypothesis
  | cons value values type types first rest firstHypothesis restHypothesis =>
      exact Bool.and_eq_true_iff.mpr ⟨firstHypothesis, restHypothesis⟩
  | _ => simp [fits, eachFits]

/-- An unsigned integer belongs to its type exactly when it is not too wide for it. -/
theorem hasType_uint_iff
    (value : Word)
    (bits : Nat) :
    HasType (.uint value bits) (.uint bits) ↔ (AbiValue.uint value bits).overflows = false := by
  have inside : (AbiValue.uint value bits).overflows = false ↔ value.toNat < 2 ^ bits := by
    simp [overflows]
  rw [inside]
  constructor
  · intro typed
    cases typed with
    | uint _ _ below => exact below
  · exact .uint value bits

end AbiValue

open AbiValue

namespace SlotType

/-- The types of the outputs that a slot can be read from. -/
def readable : SlotType → AbiType → Bool
  | .bool, .bool => true
  | .address, .address => true
  | .bytes32, .fixedBytes size => size = 32
  | .bytes, .bytes => true
  | .string, .string => true
  | .unit _, .uint _ => true
  | .raw _, .uint _ => true
  | .list item, .array inner => item.readable inner
  | .list item, .fixedArray inner _ => item.readable inner
  | _, _ => false

/-- A value of a readable type, by the slot that it fills. -/
inductive Fills : SlotType → AbiValue → AbiType → Prop where
  | bool (value : Bool) : Fills .bool (.bool value) .bool
  | address (value : Address) : Fills .address (.address value) .address
  | bytes32 (word : Word) : Fills .bytes32 (.fixedBytes word 32) (.fixedBytes 32)
  | bytes (value : Bytes) : Fills .bytes (.bytes value) .bytes
  | string (value : String) : Fills .string (.string value) .string
  | unit (host : HostUnit) (value : Word) (bits : Nat) :
      Fills (.unit host) (.uint value bits) (.uint bits)
  | raw (host : HostUnit) (value : Word) (bits : Nat) :
      Fills (.raw host) (.uint value bits) (.uint bits)
  | array (item : SlotType) (items : List AbiValue) (inner : AbiType)
      (members : ∀ value ∈ items, Fills item value inner) :
      Fills (.list item) (.array items) (.array inner)
  | fixedArray (item : SlotType) (items : List AbiValue) (inner : AbiType)
      (members : ∀ value ∈ items, Fills item value inner) :
      Fills (.list item) (.fixedArray items) (.fixedArray inner items.length)

theorem fills_of_fits
    {slot : SlotType}
    {value : AbiValue}
    {type : AbiType}
    (readable : slot.readable type = true)
    (fitting : value.fits type = true) :
    Fills slot value type := by
  induction slot generalizing value type with
  | list item inductionHypothesis =>
      cases fitted_of_fits fitting with
      | array items inner members =>
          exact .array item items inner fun value member =>
            inductionHypothesis readable (allFit_iff.mp members value member)
      | fixedArray items inner members =>
          exact .fixedArray item items inner fun value member =>
            inductionHypothesis readable (allFit_iff.mp members value member)
      | _ => cases readable
  | bytes32 =>
      cases fitted_of_fits fitting with
      | fixedBytes word size =>
          obtain rfl : size = 32 := of_decide_eq_true readable
          exact .bytes32 word
      | _ => cases readable
  | _ =>
      cases fitted_of_fits fitting <;> first | constructor | cases readable

/-- Filling a slot from a value of a readable type fails in a conversion only. -/
theorem Fills.isDecode_eq_false
    {slot : SlotType}
    {value : AbiValue}
    {type : AbiType}
    (fills : Fills slot value type)
    {error : SlotError}
    (fails : slot.ofAbi value = .error error) :
    error.isDecode = false := by
  have converts {α : Type} {result : Except ConversionError α}
      (refused : converted result = .error error) :
      error.isDecode = false := by
    cases result with
    | ok value => cases refused
    | error cause =>
        cases refused
        rfl
  induction fills with
  | unit host value bits => exact converts fails
  | array item items inner members inductionHypothesis =>
      obtain ⟨value, member, failed⟩ := Results.exists_error_of_mapM fails
      exact inductionHypothesis value member failed
  | fixedArray item items inner members inductionHypothesis =>
      obtain ⟨value, member, failed⟩ := Results.exists_error_of_mapM fails
      exact inductionHypothesis value member failed
  | _ => cases fails

/-- A value that fills a slot belongs to its type exactly when no integer in it is too wide. -/
theorem Fills.hasType_iff
    {slot : SlotType}
    {value : AbiValue}
    {type : AbiType}
    (fills : Fills slot value type) :
    HasType value type ↔ value.overflows = false := by
  induction fills with
  | unit host value bits => exact hasType_uint_iff value bits
  | raw host value bits => exact hasType_uint_iff value bits
  | array item items inner members inductionHypothesis =>
      rw [overflows, anyOverflows_eq_false_iff]
      constructor
      · rintro ⟨⟩
        rename_i typed
        exact fun value member => (inductionHypothesis value member).mp (typed value member)
      · intro inside
        exact .array items inner fun value member =>
          (inductionHypothesis value member).mpr (inside value member)
  | fixedArray item items inner members inductionHypothesis =>
      rw [overflows, anyOverflows_eq_false_iff]
      constructor
      · intro typed
        cases typed with
        | fixedArray _ _ typed =>
            exact fun value member => (inductionHypothesis value member).mp (typed value member)
      · intro inside
        exact .fixedArray items inner fun value member =>
          (inductionHypothesis value member).mpr (inside value member)
  | bool value => exact iff_of_true (.bool value) rfl
  | address value => exact iff_of_true (.address value) rfl
  | bytes32 word => exact iff_of_true (.fixedBytes word 32 (Nat.mod_one _)) rfl
  | bytes value => exact iff_of_true (.bytes value) rfl
  | string value => exact iff_of_true (.string value) rfl

/-- Void types hold no integers. -/
theorem Fills.overflows_eq_false_of_isVoid
    {slot : SlotType}
    {value : AbiValue}
    {type : AbiType}
    (fills : Fills slot value type)
    (void : type.isVoid = true) :
    value.overflows = false := by
  induction fills with
  | array item items inner members inductionHypothesis =>
      rw [overflows, anyOverflows_eq_false_iff]
      exact fun value member => inductionHypothesis value member void
  | fixedArray item items inner members inductionHypothesis =>
      rw [overflows, anyOverflows_eq_false_iff]
      intro value member
      rcases Bool.or_eq_true_iff.mp void with empty | void
      · have none : items.length = 0 := of_decide_eq_true empty
        rw [List.eq_nil_of_length_eq_zero none] at member
        cases member
      · exact inductionHypothesis value member void
  | _ => cases void

/-- A value with an integer in it does not belong to a void type. -/
theorem Fills.occupied_of_overflows
    {slot : SlotType}
    {value : AbiValue}
    {type : AbiType}
    (fills : Fills slot value type)
    (overflowing : value.overflows = true) :
    type.isVoid = false := by
  rw [← Bool.not_eq_true]
  intro void
  rw [fills.overflows_eq_false_of_isVoid void] at overflowing
  cases overflowing

theorem room_of_all
    {items : List AbiValue}
    (each : ∀ value ∈ items, 32 ≤ (body value).length ∧ value.longest ≤ (body value).length) :
    32 * items.length ≤ (assemble (parts items)).length ∧
      longestOfAll items ≤ (assemble (parts items)).length := by
  induction items with
  | nil => simp [longestOfAll]
  | cons first rest inductionHypothesis =>
      obtain ⟨here, others⟩ := List.forall_mem_cons.mp each
      have behind := inductionHypothesis others
      rw [length_assemble_parts_cons, longestOfAll, List.length_cons]
      omega

/-- Values that take up room are no longer in any list than their body is. -/
theorem Fills.room
    {slot : SlotType}
    {value : AbiValue}
    {type : AbiType}
    (fills : Fills slot value type)
    (occupied : type.isVoid = false) :
    32 ≤ (body value).length ∧ value.longest ≤ (body value).length := by
  induction fills with
  | array item items inner members inductionHypothesis =>
      have inside := room_of_all fun value member => inductionHypothesis value member occupied
      simp only [body, word, longest, List.length_append, Bytes.length_ofNat]
      omega
  | fixedArray item items inner members inductionHypothesis =>
      obtain ⟨some, occupied⟩ := Bool.or_eq_false_iff.mp occupied
      have inside := room_of_all fun value member => inductionHypothesis value member occupied
      have several : items.length ≠ 0 := of_decide_eq_false some
      simp only [body, longest]
      omega
  | _ => simp [body, word, counted, longest]

/-- A value that takes up room can be addressed when its encoding can. -/
theorem Fills.addressable
    {slot : SlotType}
    {value : AbiValue}
    {type : AbiType}
    (fills : Fills slot value type)
    (occupied : type.isVoid = false)
    (small : (Abi.encode [value]).length < 2 ^ 64) :
    value.Addressable := by
  have room := fills.room occupied
  have whole := small
  rw [encode_singleton, List.length_append] at whole
  exact ⟨by omega, small⟩

end SlotType

namespace Field

variable {slot : SlotType}

/-- Data is the encoding of a value of a type, or its read fails for its form. -/
def ReadsStrictly (field : Field slot) (output : AbiType) (data : Bytes) : Prop :=
  (∃ value, HasType value output ∧ data = Abi.encode [value]) ∨
    ∃ error, field.read data = .error error ∧ error.isDecode = true

/-- Data that is not accepted is refused for its form. -/
theorem read_of_decodeStrict_error
    (field : Field slot)
    {data : Bytes}
    {cause : DecodeError}
    (refused : decodeStrict field.getter.outputs data = .error cause) :
    field.read data = .error (.data cause) := by
  rw [read, refused]
  rfl

/-- Data that is accepted fills the slot with its one value. -/
theorem read_of_decodeStrict_ok
    (field : Field slot)
    {data : Bytes}
    {value : AbiValue}
    (accepted : decodeStrict field.getter.outputs data = .ok [value]) :
    field.read data = slot.ofAbi value := by
  rw [read, accepted]
  rfl

/--
A read is strict on all data but the encodings of values of the right shape that hold an unsigned
integer too wide for its type, as far as the decoder follows their nesting.
-/
theorem readsStrictly_iff
    (field : Field slot)
    {output : Parameter}
    {type : AbiType}
    (outputs : field.getter.outputs = [output])
    (resolves : output.resolve = .ok type)
    (readable : slot.readable type = true)
    {data : Bytes}
    (small : data.length < 2 ^ 64) :
    field.ReadsStrictly type data ↔
      ¬ ∃ value,
        value.fits type = true ∧ Abi.encode [value] = data ∧ value.levels ≤ depthLimit ∧
          value.overflows = true := by
  constructor
  · rintro strict ⟨value, fitting, rfl, within, overflowing⟩
    have fills := SlotType.fills_of_fits readable fitting
    have occupied := fills.occupied_of_overflows overflowing
    have accepted : decodeStrict field.getter.outputs (Abi.encode [value]) = .ok [value] := by
      rw [outputs, decodeStrict_encode_eq_ok_iff resolves occupied fitting
        (fills.addressable occupied small)]
      exact ⟨rfl, within⟩
    rcases strict with ⟨other, typed, same⟩ | ⟨error, fails, decodes⟩
    · have otherFills := SlotType.fills_of_fits readable (fits_of_hasType typed)
      have others := accepted
      rw [same, outputs] at others
      rw [decodeStrict_encode_eq_ok_iff resolves occupied (fits_of_hasType typed)
        (otherFills.addressable occupied (same ▸ small))] at others
      obtain rfl : value = other := List.head_eq_of_cons_eq others.1
      rw [otherFills.hasType_iff.mp typed] at overflowing
      cases overflowing
    · rw [field.read_of_decodeStrict_ok accepted] at fails
      rw [fills.isDecode_eq_false fails] at decodes
      cases decodes
  · intro clean
    cases decoded : decodeStrict field.getter.outputs data with
    | error cause =>
        exact .inr ⟨_, field.read_of_decodeStrict_error decoded, rfl⟩
    | ok found =>
        have opened := decoded
        rw [outputs, decodeStrict_eq_ok_iff resolves] at opened
        obtain ⟨value, next, -, fitting, rfl, rfl⟩ := opened
        have fills := SlotType.fills_of_fits readable fitting
        refine .inl ⟨value, fills.hasType_iff.mpr ?_, rfl⟩
        -- The nesting of an accepted value is known once it is known to take up room.
        rw [← Bool.not_eq_true]
        intro overflowing
        have occupied := fills.occupied_of_overflows overflowing
        rw [outputs,
          decodeStrict_encode_eq_ok_iff resolves occupied fitting
            (fills.addressable occupied small)]
          at decoded
        exact clean ⟨value, fitting, rfl, decoded.2, overflowing⟩

end Field

/-- A list of numbers of eight bits. -/
def narrowListField : Field (.list (.unit (.unsigned .u64))) where
  contract := ⟨"vault", 0xAA, []⟩
  getter := ⟨"levels", [], [.mk "uint8[]" []], .view⟩

/-- One number that is too wide spoils a list. -/
theorem readsStrictly_narrowList :
    let data := Abi.encode [.array [.uint 7 8, .uint 300 8]]
    narrowListField.getter.outputs = [.mk "uint8[]" []] ∧
      (Parameter.mk "uint8[]" []).resolve = .ok (.array (.uint 8)) ∧
      (SlotType.list (.unit (.unsigned .u64))).readable (.array (.uint 8)) = true ∧
      data.length < 2 ^ 64 ∧
      ¬ narrowListField.ReadsStrictly (.array (.uint 8)) data := by
  intro data
  have resolves : (Parameter.mk "uint8[]" []).resolve = .ok (.array (.uint 8)) := rfl
  have small : data.length < 2 ^ 64 := by decide +kernel
  refine ⟨rfl, resolves, rfl, small, fun strict => ?_⟩
  exact (narrowListField.readsStrictly_iff rfl resolves rfl small).mp strict
    ⟨.array [.uint 7 8, .uint 300 8], by decide, rfl, by decide, by decide⟩

/-- A number of eight bits. -/
def narrowField : Field (.unit (.unsigned .u64)) where
  contract := ⟨"vault", 0xAA, []⟩
  getter := ⟨"level", [], [.mk "uint8" []], .view⟩

/-- A number of more than eight bits is read where one of eight is declared. -/
theorem narrowField_reads_wide :
    narrowField.read (Abi.word 300) = .ok 300 ∧
      ¬ narrowField.ReadsStrictly (.uint 8) (Abi.word 300) := by
  have reads : narrowField.read (Abi.word 300) = .ok 300 := rfl
  refine ⟨reads, ?_⟩
  rintro (⟨value, typed, same⟩ | ⟨error, fails, -⟩)
  · cases typed with
    | uint value bits below =>
        have numbers : Bytes.toNat (Abi.word 300) = Bytes.toNat (Abi.word value.toNat) :=
          congrArg Bytes.toNat (same.trans (encode_singleton _))
        rw [toNat_word, toNat_word] at numbers
        omega
  · rw [reads] at fails
    cases fails

end ContractGateway
