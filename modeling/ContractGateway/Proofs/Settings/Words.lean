import ContractGateway.Proofs.Field.Inverse
import ContractGateway.Settings

/-!
# Settings are read from the words they are proposed as

A proposal carries a setting as one word or as one ABI value. Both have the same bytes, and a getter
that returns these bytes is read for the value that was proposed, in every kind but ratios, which
round: `SettingValue.read_word`.
-/

namespace ContractGateway

open Abi AbiValue

namespace SettingKind

/-- The type that the getter of a kind returns. -/
def wireType : SettingKind → AbiType
  | .bool => .bool
  | .address => .address
  | _ => .uint 256

variable {kind : SettingKind}

theorem isVoid_wireType (kind : SettingKind) : kind.wireType.isVoid = false := by
  cases kind <;> rfl

theorem isExact_slotType (exact : kind ≠ .ratio) : kind.slotType.isExact = true := by
  cases kind with
  | ratio => exact absurd rfl exact
  | _ => rfl

/-- No list and no signed integer is returned by a getter. -/
theorem flat_of_fits
    {raw : AbiValue}
    (fitting : raw.fits kind.wireType = true) :
    raw.levels = 0 ∧ raw.longest = 0 ∧ raw.holdsSigned = false := by
  cases kind <;> cases fitted_of_fits fitting <;> simp [levels, longest, holdsSigned]

end SettingKind

namespace SettingValue

variable {setting : SettingValue}

theorem exists_eq_of_kind
    {kind : SettingKind}
    (same : setting.kind = kind) :
    ∃ value, setting = ⟨kind, value⟩ := by
  subst same
  exact ⟨setting.value, rfl⟩

/-- The ABI value that a setting is proposed as has the bytes of its word. -/
theorem exists_toAbi
    {word : Word}
    (carried : setting.toWord = .ok word) :
    ∃ raw,
      setting.toAbi = .ok raw ∧
        raw.fits setting.kind.wireType = true ∧ encode [raw] = word.toBytes := by
  obtain ⟨kind, value⟩ := setting
  cases kind with
  | bool =>
      cases carried
      refine ⟨.bool value, rfl, rfl, ?_⟩
      cases value <;> rfl
  | address =>
      cases carried
      refine ⟨.address value, rfl, rfl, ?_⟩
      have small : value.toNat < 2 ^ 256 := by omega
      rw [Word.toBytes, HostUnit.toNat_word small]
      exact encode_singleton _
  | _ =>
      refine ⟨.uint word 256, ?_, rfl, encode_singleton _⟩
      have sent : HostUnit.toWire _ value = .ok word := carried
      change (HostUnit.toWire _ value >>= _) = _
      rw [sent]
      rfl

/-- A field of the kind of a setting reads the word of the setting for its value. -/
theorem read_word
    (exact : setting.kind ≠ .ratio)
    {word : Word}
    (carried : setting.toWord = .ok word)
    (field : Field setting.kind.slotType)
    (returns : Parameter.resolveAll field.getter.outputs = .ok [setting.kind.wireType]) :
    field.read word.toBytes = .ok setting.value := by
  obtain ⟨raw, sent, fitting, bytes⟩ := exists_toAbi carried
  obtain ⟨shallow, listless, unsigned⟩ := SettingKind.flat_of_fits fitting
  have members : eachFits [raw] [setting.kind.wireType] = true := by simp [eachFits, fitting]
  have occupied : ∀ type ∈ [setting.kind.wireType], type.isVoid = false := by
    simp [SettingKind.isVoid_wireType]
  have addressable : AddressableAll [raw] := by
    constructor
    · simp [longestOfAll, listless]
    · simp [bytes]
  have within : deepest [raw] ≤ depthLimit := by simp [deepest, shallow]
  have restores : setting.kind.slotType.ofAbi raw = .ok setting.value := by
    have restored :=
      SlotType.restores_of_fitTo (SettingKind.isExact_slotType exact) sent (fitTo_bool raw)
    rw [unsigned] at restored
    exact restored
  calc field.read word.toBytes
      = field.read (encode [raw]) := by rw [bytes]
    _ = setting.kind.slotType.fromAbi [raw] :=
        field.read_encode_of_occupied returns occupied members addressable within
    _ = .ok setting.value := restores

end SettingValue

end ContractGateway
