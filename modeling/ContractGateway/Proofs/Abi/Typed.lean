import ContractGateway.Proofs.Abi.Layout
import ContractGateway.Proofs.Results

/-!
# Decoded values fit their types

The decoder is lenient about the data it meets, but not about the shape of what it makes of it:
whatever it reads by a type fits this type. A caller that takes the outputs of a method apart meets
the constructors of their types and nothing else.
-/

namespace ContractGateway.Abi

open AbiValue

variable {reader next : Reader}

theorem exists_of_decodeWord
    {make : Word → AbiValue}
    {value : AbiValue}
    (decodes : decodeWord make reader = .ok (value, next)) :
    ∃ word, make word = value := by
  obtain ⟨⟨word, behind⟩, -, made⟩ := Results.exists_ok_of_bind decodes
  exact ⟨word, congrArg Prod.fst (Except.ok.inj made)⟩

theorem exists_of_decodeBytes
    {make : Bytes → AbiValue}
    {value : AbiValue}
    (decodes : decodeBytes make reader = .ok (value, next)) :
    ∃ bytes, make bytes = value := by
  obtain ⟨⟨target, behind⟩, -, decodes⟩ := Results.exists_ok_of_bind decodes
  obtain ⟨bytes, -, made⟩ := Results.exists_ok_of_bind decodes
  exact ⟨bytes, congrArg Prod.fst (Except.ok.inj made)⟩

theorem exists_of_decodeLevel
    {dynamic : Bool}
    {contents : Reader → Except DecodeError (List AbiValue × Reader)}
    {items : List AbiValue}
    (decodes : decodeLevel dynamic contents reader = .ok (items, next)) :
    ∃ inner behind, contents inner = .ok (items, behind) := by
  cases dynamic with
  | true =>
      obtain ⟨⟨target, after⟩, -, decodes⟩ := Results.exists_ok_of_bind decodes
      obtain ⟨⟨found, behind⟩, inside, made⟩ := Results.exists_ok_of_bind decodes
      cases made
      exact ⟨target, behind, inside⟩
  | false =>
      obtain ⟨inner, -, decodes⟩ := Results.exists_ok_of_bind decodes
      obtain ⟨⟨found, behind⟩, inside, made⟩ := Results.exists_ok_of_bind decodes
      cases made
      exact ⟨inner, behind, inside⟩

/-- An array is empty, or its items were read one after the other. -/
theorem exists_of_decodeArray
    {item : AbiType}
    {value : AbiValue}
    (decodes : decodeValue (.array item) reader = .ok (value, next)) :
    ∃ items,
      value = .array items ∧
        (items = [] ∨
          ∃ length inner behind,
            decodeTimes (decodeValue item) length inner = .ok (items, behind)) := by
  rw [decodeValue] at decodes
  obtain ⟨⟨target, after⟩, -, decodes⟩ := Results.exists_ok_of_bind decodes
  obtain ⟨⟨length, counted⟩, -, decodes⟩ := Results.exists_ok_of_bind decodes
  dsimp only at decodes
  split at decodes
  · cases decodes
    exact ⟨[], rfl, .inl rfl⟩
  · obtain ⟨inner, -, decodes⟩ := Results.exists_ok_of_bind decodes
    split at decodes
    · cases decodes
    · obtain ⟨⟨items, behind⟩, inside, made⟩ := Results.exists_ok_of_bind decodes
      cases made
      exact ⟨items, rfl, .inr ⟨length, inner, behind, inside⟩⟩

/-- What is read a number of times fits a type, if each reading does. -/
theorem allFit_of_decodeTimes
    {type : AbiType}
    (each :
      ∀ {reader value next},
        decodeValue type reader = .ok (value, next) → value.fits type = true)
    {times : Nat}
    {values : List AbiValue}
    (decodes : decodeTimes (decodeValue type) times reader = .ok (values, next)) :
    values.length = times ∧ allFit values type = true := by
  induction times generalizing reader values with
  | zero =>
      cases decodes
      exact ⟨rfl, rfl⟩
  | succ times inductionHypothesis =>
      obtain ⟨⟨first, after⟩, here, decodes⟩ := Results.exists_ok_of_bind decodes
      obtain ⟨⟨rest, behind⟩, there, made⟩ := Results.exists_ok_of_bind decodes
      cases made
      obtain ⟨asMany, members⟩ := inductionHypothesis there
      exact ⟨congrArg (· + 1) asMany, Bool.and_eq_true_iff.mpr ⟨each here, members⟩⟩

mutual

/-- A value that is read by a type fits it. -/
theorem fits_of_decodeValue
    (type : AbiType)
    {reader next : Reader}
    {value : AbiValue}
    (decodes : decodeValue type reader = .ok (value, next)) :
    value.fits type = true := by
  match type with
  | .bool | .address | .function =>
      rw [decodeValue] at decodes
      obtain ⟨word, rfl⟩ := exists_of_decodeWord decodes
      rfl
  | .int _ | .uint _ | .fixedBytes _ =>
      rw [decodeValue] at decodes
      obtain ⟨word, rfl⟩ := exists_of_decodeWord decodes
      exact decide_eq_true rfl
  | .bytes | .string =>
      rw [decodeValue] at decodes
      obtain ⟨bytes, rfl⟩ := exists_of_decodeBytes decodes
      rfl
  | .array item =>
      obtain ⟨items, rfl, rfl | ⟨length, inner, behind, inside⟩⟩ := exists_of_decodeArray decodes
      · rfl
      · exact (allFit_of_decodeTimes (fits_of_decodeValue item) inside).2
  | .fixedArray item length =>
      rw [decodeValue] at decodes
      obtain ⟨⟨items, after⟩, level, made⟩ := Results.exists_ok_of_bind decodes
      cases made
      obtain ⟨inner, behind, inside⟩ := exists_of_decodeLevel level
      obtain ⟨asMany, members⟩ := allFit_of_decodeTimes (fits_of_decodeValue item) inside
      exact Bool.and_eq_true_iff.mpr ⟨decide_eq_true asMany, members⟩
  | .tuple types =>
      rw [decodeValue] at decodes
      obtain ⟨⟨items, after⟩, level, made⟩ := Results.exists_ok_of_bind decodes
      cases made
      obtain ⟨inner, behind, inside⟩ := exists_of_decodeLevel level
      exact eachFits_of_decodeEach types inside

theorem eachFits_of_decodeEach
    (types : List AbiType)
    {reader next : Reader}
    {values : List AbiValue}
    (decodes : decodeEach types reader = .ok (values, next)) :
    eachFits values types = true := by
  match types with
  | [] =>
      cases decodes
      rfl
  | type :: types =>
      rw [decodeEach] at decodes
      obtain ⟨⟨value, after⟩, here, decodes⟩ := Results.exists_ok_of_bind decodes
      obtain ⟨⟨rest, behind⟩, there, made⟩ := Results.exists_ok_of_bind decodes
      cases made
      exact Bool.and_eq_true_iff.mpr
        ⟨fits_of_decodeValue type here, eachFits_of_decodeEach types there⟩

end

/-- A method with one output that takes up room is read as one value of its type. -/
theorem exists_of_decode_singleton
    {type : AbiType}
    {data : Bytes}
    {values : List AbiValue}
    (occupied : type.isVoid = false)
    (decodes : decode [type] data = .ok values) :
    ∃ value, values = [value] ∧ value.fits type = true := by
  obtain ⟨⟨found, behind⟩, outputs, rfl⟩ := Results.exists_ok_of_map decodes
  rw [decodeOutputs] at outputs
  obtain ⟨⟨value, after⟩, output, outputs⟩ := Results.exists_ok_of_bind outputs
  obtain ⟨⟨rest, last⟩, others, made⟩ := Results.exists_ok_of_bind outputs
  cases others
  cases made
  rw [decodeOutput, if_neg (by simp [occupied])] at output
  split at output
  · cases output
  · exact ⟨value, rfl, fits_of_decodeValue type output⟩

end ContractGateway.Abi
