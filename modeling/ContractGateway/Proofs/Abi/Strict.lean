import ContractGateway.Proofs.Abi.RoundTrip
import ContractGateway.Proofs.Results

/-!
# What strict reading accepts

Strict reading of one output accepts just the encodings of values that fit its type, as far as the
decoder follows their nesting. Void types are not looked at: what they hold takes up nothing.
-/

namespace ContractGateway

open Abi AbiValue

/-- A value whose encoding can be addressed: no list in it, and no place in it, is out of reach. -/
structure AbiValue.Addressable (value : AbiValue) : Prop where
  countable : value.longest < 2 ^ 64
  small : (encode [value]).length < 2 ^ 64

namespace Abi

variable {parameter : Parameter} {type : AbiType}

theorem encodeFor_singleton
    (resolves : parameter.resolve = .ok type)
    (value : AbiValue) :
    encodeFor [parameter] [value] =
      if value.fits type then .ok (encode [value]) else .error (.mismatch type value) := by
  cases fitting : value.fits type <;>
    simp [encodeFor, checkEach, resolves, fitting, bind, Except.bind, pure, Except.pure]

/-- One output is decoded, checked against its type and compared with the data. -/
theorem decodeStrict_singleton
    (resolves : parameter.resolve = .ok type)
    (data : Bytes) :
    decodeStrict [parameter] data =
      match decodeOutput type (.start data 0) with
      | .error cause => .error cause
      | .ok (value, _) =>
          if value.fits type then
            if encode [value] = data then .ok [value]
            else .error (.notCanonical data.length (encode [value]).length)
          else .error (.notEncodable (.mismatch type value)) := by
  cases decoded : decodeOutput type (.start data 0) with
  | error cause =>
      simp [decodeStrict, decodeParameters, resolves, decoded, Results.mapError_ok, bind,
        Except.bind]
  | ok found =>
      obtain ⟨value, next⟩ := found
      simp only [decodeStrict, decodeParameters, resolves, decoded, Results.mapError_ok, bind,
        Except.bind, pure, Except.pure, encodeFor_singleton resolves]
      cases value.fits type <;> rfl

/-- What is accepted is the encoding of the one value that was decoded. -/
theorem decodeStrict_eq_ok_iff
    (resolves : parameter.resolve = .ok type)
    (data : Bytes)
    (outputs : List AbiValue) :
    decodeStrict [parameter] data = .ok outputs ↔
      ∃ value next,
        decodeOutput type (.start data 0) = .ok (value, next) ∧
          value.fits type = true ∧ encode [value] = data ∧ outputs = [value] := by
  rw [decodeStrict_singleton resolves]
  constructor
  · intro accepted
    split at accepted
    · cases accepted
    · rename_i value next decoded
      split at accepted
      · rename_i fitting
        split at accepted
        · rename_i same
          exact ⟨value, next, decoded, fitting, same, (Except.ok.inj accepted).symm⟩
        · cases accepted
      · cases accepted
  · rintro ⟨value, next, decoded, fitting, same, rfl⟩
    simp [decoded, fitting, same]

/-- The encoding of one value is that value's, behind an offset when it is dynamic. -/
theorem before_start_encode
    (value : AbiValue)
    (small : (encode [value]).length < 2 ^ 64) :
    ∃ more, (Reader.start (encode [value]) 0).Before value more := by
  obtain ⟨more, beforeAll, -⟩ := Reader.beforeAll_start small [] 0
  rw [List.append_nil] at beforeAll
  cases beforeAll with
  | cons _ _ _ next _ first others => exact ⟨next, first⟩

/-- A value of a type that takes up room is decoded from its encoding as far as the levels allow. -/
theorem decodeOutput_encode
    {value : AbiValue}
    (fitting : value.fits type = true)
    (addressable : value.Addressable)
    (occupied : type.isVoid = false) :
    ∃ more,
      decodeOutput type (.start (encode [value]) 0) =
        (Reader.start (encode [value]) 0).reads value.levels value more := by
  obtain ⟨more, before⟩ := before_start_encode value addressable.small
  have small := addressable.small
  have room := leastWords_le value fitting
  rw [encode_singleton, List.length_append] at small
  have enough : ¬ (Reader.start (encode [value]) 0).wordsLeft < type.leastWords := by
    simp only [Reader.wordsLeft, Reader.start, encode_singleton, List.length_append]
    omega
  refine ⟨more, ?_⟩
  rw [decodeOutput, if_neg (by simp [occupied]), if_neg enough]
  exact decodeValue_eq value fitting (by omega) addressable.countable (Nat.zero_le _) before

/-- Of the encoding of a value that fits, just the value is accepted, if it is not too deep. -/
theorem decodeStrict_encode_eq_ok_iff
    (resolves : parameter.resolve = .ok type)
    (occupied : type.isVoid = false)
    {value : AbiValue}
    (fitting : value.fits type = true)
    (addressable : value.Addressable)
    (outputs : List AbiValue) :
    decodeStrict [parameter] (encode [value]) = .ok outputs ↔
      outputs = [value] ∧ value.levels ≤ depthLimit := by
  rw [decodeStrict_eq_ok_iff resolves]
  obtain ⟨more, decoded⟩ := decodeOutput_encode fitting addressable occupied
  have depth : (Reader.start (encode [value]) 0).depth + value.levels = value.levels :=
    Nat.zero_add _
  rw [decoded, Reader.reads, limited, depth]
  by_cases within : value.levels ≤ depthLimit
  · rw [if_pos within]
    constructor
    · rintro ⟨_, _, found, -, -, rfl⟩
      cases found
      exact ⟨rfl, within⟩
    · rintro ⟨rfl, -⟩
      exact ⟨_, _, rfl, fitting, rfl, rfl⟩
  · rw [if_neg within]
    constructor
    · rintro ⟨_, _, found, -⟩
      cases found
    · rintro ⟨-, inside⟩
      exact absurd inside within

end Abi

end ContractGateway
