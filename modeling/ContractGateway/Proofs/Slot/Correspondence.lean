import ContractGateway.Proofs.HostUnit.Quantity

/-!
# Slot values and ABI values correspond

A slot looks neither at the width of an integer nor at whether an array is of a fixed length:
`AbiValue.plain` forgets both. Up to that, an ABI value is read as a host value exactly when the
host value is sent as the ABI value, at every nesting of lists, so the two directions fail for the
same values. A list fails with the error of its first item that fails. Both are in
`SlotType.correspond`.
-/

namespace ContractGateway

namespace AbiValue

mutual

/-- The value without the widths of its integers and the kinds of its arrays. -/
def plain : AbiValue → AbiValue
  | .int word _ => .int word 256
  | .uint word _ => .uint word 256
  | .array items | .fixedArray items => .array (plainAll items)
  | .tuple items => .tuple (plainAll items)
  | value => value

/-- Several values without their widths and kinds. -/
def plainAll : List AbiValue → List AbiValue
  | [] => []
  | value :: rest => value.plain :: plainAll rest

end

theorem plainAll_eq_map (values : List AbiValue) : plainAll values = values.map plain := by
  induction values with
  | nil => rfl
  | cons value rest inductionHypothesis => rw [plainAll, inductionHypothesis, List.map_cons]

/-- An array of either kind. -/
def IsArrayOf (items : List AbiValue) (value : AbiValue) : Prop :=
  value = .array items ∨ value = .fixedArray items

theorem IsArrayOf.plain_eq
    {items : List AbiValue}
    {value : AbiValue}
    (holds : IsArrayOf items value) :
    value.plain = .array (items.map plain) := by
  rcases holds with rfl | rfl <;> rw [plain, plainAll_eq_map]

theorem exists_isArrayOf_of_plain_eq
    {value : AbiValue}
    {plains : List AbiValue}
    (same : value.plain = .array plains) :
    ∃ items, IsArrayOf items value ∧ items.map plain = plains := by
  cases value with
  | array items =>
      rw [plain, plainAll_eq_map] at same
      exact ⟨items, .inl rfl, AbiValue.array.inj same⟩
  | fixedArray items =>
      rw [plain, plainAll_eq_map] at same
      exact ⟨items, .inr rfl, AbiValue.array.inj same⟩
  | _ => cases same

theorem exists_uint_of_plain_eq
    {value : AbiValue}
    {word : Word}
    {bits : Nat}
    (same : value.plain = .uint word bits) :
    ∃ width, value = .uint word width := by
  cases value with
  | uint other width =>
      cases same
      exact ⟨width, rfl⟩
  | _ => cases same

end AbiValue

namespace SlotType

open AbiValue

theorem fromAbi_singleton
    (slot : SlotType)
    (value : AbiValue) :
    slot.fromAbi [value] = slot.ofAbi value := rfl

/-! ## Lists -/

theorem ofAbi_of_isArrayOf
    {slot : SlotType}
    {items : List AbiValue}
    {value : AbiValue}
    (holds : IsArrayOf items value) :
    (SlotType.list slot).ofAbi value = items.mapM slot.ofAbi := by
  rcases holds with rfl | rfl <;> rfl

/-- A list is read from an array only. -/
theorem exists_isArrayOf_of_ofAbi
    {slot : SlotType}
    {value : AbiValue}
    {found : (SlotType.list slot).Value}
    (read : (SlotType.list slot).ofAbi value = .ok found) :
    ∃ items, IsArrayOf items value ∧ items.mapM slot.ofAbi = .ok found := by
  cases value with
  | array items => exact ⟨items, .inl rfl, read⟩
  | fixedArray items => exact ⟨items, .inr rfl, read⟩
  | _ => cases read

/-! ## Numbers -/

/-- A word is read from an unsigned integer only. -/
theorem wordOf_eq_ok_iff
    {value : AbiValue}
    {word : Word} :
    wordOf value = .ok word ↔ ∃ bits, value = .uint word bits := by
  constructor
  · intro read
    cases value with
    | uint other bits =>
        cases read
        exact ⟨bits, rfl⟩
    | _ => cases read
  · rintro ⟨bits, rfl⟩
    rfl

/-- A number is read from the unsigned integer of its word. -/
theorem ofAbi_unit_eq_ok_iff
    {host : HostUnit}
    {value : AbiValue}
    {found : host.Value} :
    (SlotType.unit host).ofAbi value = .ok found ↔
      ∃ word bits, value = .uint word bits ∧ host.fromWire word = .ok found := by
  constructor
  · intro read
    obtain ⟨word, isWord, converts⟩ := Results.exists_ok_of_bind read
    obtain ⟨bits, rfl⟩ := wordOf_eq_ok_iff.mp isWord
    exact ⟨word, bits, rfl, Results.ok_of_mapError converts⟩
  · rintro ⟨word, bits, rfl, converts⟩
    change converted (host.fromWire word) = _
    rw [converts]
    rfl

/-! ## Values of one form -/

/-- The slot holds neither numbers nor lists, so that each of its values has one form only. -/
def isRigid : SlotType → Bool
  | .unit _ | .raw _ | .list _ => false
  | _ => true

/-- A value of one form is read from just what it is sent as. -/
theorem toAbi_of_ofAbi_of_isRigid
    {slot : SlotType}
    (rigid : slot.isRigid = true)
    {raw : AbiValue}
    {value : slot.Value}
    (read : slot.ofAbi raw = .ok value) :
    slot.toAbi value = .ok raw := by
  cases slot with
  | unit host | raw host | list item =>
      cases rigid
  | bytes32 =>
      cases raw with
      | fixedBytes word size =>
          by_cases whole : size = 32
          · subst whole
            cases read
            rfl
          · simp [ofAbi, whole] at read
      | _ => cases read
  | bool | address | bytes | string =>
      cases raw <;> cases read
      rfl

theorem eq_of_plain_eq_of_isRigid
    {slot : SlotType}
    (rigid : slot.isRigid = true)
    {value : slot.Value}
    {sent other : AbiValue}
    (written : slot.toAbi value = .ok sent)
    (same : other.plain = sent.plain) :
    other = sent := by
  cases slot with
  | unit host | raw host | list item =>
      cases rigid
  | bool | address | bytes32 | bytes | string =>
      cases written
      cases other <;> cases same
      rfl

/-! ## Both directions -/

/-- Values that differ in widths and kinds alone are read as the same. -/
theorem ofAbi_of_plain_eq
    {slot : SlotType}
    {raw other : AbiValue}
    {value : slot.Value}
    (same : other.plain = raw.plain)
    (read : slot.ofAbi raw = .ok value) :
    slot.ofAbi other = .ok value := by
  induction slot generalizing raw other with
  | unit host =>
      obtain ⟨word, bits, rfl, converts⟩ := ofAbi_unit_eq_ok_iff.mp read
      obtain ⟨width, rfl⟩ := exists_uint_of_plain_eq same
      exact ofAbi_unit_eq_ok_iff.mpr ⟨word, width, rfl, converts⟩
  | raw host =>
      obtain ⟨bits, rfl⟩ := wordOf_eq_ok_iff.mp read
      obtain ⟨width, rfl⟩ := exists_uint_of_plain_eq same
      rfl
  | list item inductionHypothesis =>
      obtain ⟨items, holds, reads⟩ := exists_isArrayOf_of_ofAbi read
      rw [holds.plain_eq] at same
      obtain ⟨others, otherHolds, sameItems⟩ := exists_isArrayOf_of_plain_eq same
      rw [ofAbi_of_isArrayOf otherHolds]
      exact Results.mapM_eq_ok_of_map_eq inductionHypothesis sameItems reads
  | _ =>
      have written := toAbi_of_ofAbi_of_isRigid rfl read
      rw [eq_of_plain_eq_of_isRigid rfl written same]
      exact read

/-- What a value is sent as is read as that value. -/
theorem ofAbi_of_toAbi
    {slot : SlotType}
    (exact : slot.isExact = true)
    {value : slot.Value}
    {sent : AbiValue}
    (written : slot.toAbi value = .ok sent) :
    slot.ofAbi sent = .ok value := by
  induction slot generalizing sent with
  | unit host =>
      obtain ⟨word, isWord, same⟩ := Results.exists_ok_of_bind written
      cases same
      have unrounded : host ≠ .ratio := of_decide_eq_true exact
      exact ofAbi_unit_eq_ok_iff.mpr
        ⟨word, _, rfl, HostUnit.fromWire_of_toWire unrounded isWord⟩
  | list item inductionHypothesis =>
      obtain ⟨items, inside, same⟩ := Results.exists_ok_of_bind written
      cases same
      have each {value : item.Value} {sent : AbiValue} (written : item.toAbi value = .ok sent) :
          ∃ read, item.ofAbi sent = .ok read ∧ id read = id value :=
        ⟨value, inductionHypothesis exact written, rfl⟩
      obtain ⟨values, read, same⟩ := Results.exists_ok_of_mapM_back id each inside
      rw [List.map_id, List.map_id] at same
      exact same ▸ read
  | _ =>
      cases written
      rfl

/-- What is read as a value is what that value is sent as, widths and kinds aside. -/
theorem exists_toAbi_of_ofAbi
    {slot : SlotType}
    (exact : slot.isExact = true)
    {raw : AbiValue}
    {value : slot.Value}
    (read : slot.ofAbi raw = .ok value) :
    ∃ sent, slot.toAbi value = .ok sent ∧ sent.plain = raw.plain := by
  induction slot generalizing raw with
  | unit host =>
      obtain ⟨word, bits, rfl, converts⟩ := ofAbi_unit_eq_ok_iff.mp read
      have unrounded : host ≠ .ratio := of_decide_eq_true exact
      have same := HostUnit.quantity_of_fromWire unrounded converts
      refine ⟨.uint word (unitBits host), ?_, rfl⟩
      rw [toAbi, HostUnit.toWire_of_quantity unrounded same]
      rfl
  | raw host =>
      obtain ⟨bits, rfl⟩ := wordOf_eq_ok_iff.mp read
      exact ⟨_, rfl, rfl⟩
  | list item inductionHypothesis =>
      obtain ⟨items, holds, reads⟩ := exists_isArrayOf_of_ofAbi read
      obtain ⟨sent, written, same⟩ :=
        Results.exists_ok_of_mapM_back plain (inductionHypothesis exact) reads
      refine ⟨.array sent, ?_, ?_⟩
      · rw [toAbi, written]
        rfl
      · rw [holds.plain_eq, plain, plainAll_eq_map, same]
  | _ =>
      exact ⟨raw, toAbi_of_ofAbi_of_isRigid rfl read, rfl⟩

/--
What a value is sent as is read as that value, and an ABI value is read as a value exactly when it
is what that value is sent as, widths and kinds aside. A list fails with the error of its first item
that fails.
-/
theorem correspond
    {slot : SlotType}
    (exact : slot.isExact = true) :
    (∀ value sent, slot.toAbi value = .ok sent → slot.fromAbi [sent] = .ok value) ∧
      (∀ raw value,
        slot.fromAbi [raw] = .ok value ↔
          ∃ sent, slot.toAbi value = .ok sent ∧ sent.plain = raw.plain) ∧
      ∀ items whole error, IsArrayOf items whole →
        ((SlotType.list slot).fromAbi [whole] = .error error ↔
          ∃ before offending behind,
            items = before ++ offending :: behind ∧
              (∀ item ∈ before, ∃ value, slot.fromAbi [item] = .ok value) ∧
              slot.fromAbi [offending] = .error error) := by
  refine ⟨fun value sent => ofAbi_of_toAbi exact, fun raw value => ⟨?_, ?_⟩, ?_⟩
  · exact exists_toAbi_of_ofAbi exact
  · rintro ⟨sent, written, same⟩
    exact ofAbi_of_plain_eq same.symm (ofAbi_of_toAbi exact written)
  · intro items whole error holds
    rw [fromAbi_singleton, ofAbi_of_isArrayOf holds]
    exact Results.mapM_eq_error_iff

/-- Numbers in arrays of either kind and of any width are read, up to the first that is too large. -/
theorem correspond_nested :
    let numbers : SlotType := .list (.unit .i64)
    let lists : SlotType := .list numbers
    let sent : AbiValue := .array [.array [.uint 7 256], .array []]
    let raw : AbiValue := .fixedArray [.array [.uint 7 8], .fixedArray []]
    let wide : AbiValue := .array [.uint (BitVec.ofNat 256 (2 ^ 63)) 64]
    let overflow : SlotError := .conversion (.overflow "i64" "9223372036854775808")
    lists.isExact = true ∧
      lists.toAbi [[7], []] = .ok sent ∧
      lists.fromAbi [sent] = .ok [[7], []] ∧
      lists.fromAbi [raw] = .ok [[7], []] ∧
      IsArrayOf [.array [], wide, .bool true] (.array [.array [], wide, .bool true]) ∧
      lists.fromAbi [.array [.array [], wide, .bool true]] = .error overflow := by
  intro numbers lists sent raw wide overflow
  have exact : lists.isExact = true := rfl
  have written : lists.toAbi [[7], []] = .ok sent := rfl
  obtain ⟨back, read, -⟩ := correspond exact
  have isArray : IsArrayOf [.array [], wide, .bool true] (.array [.array [], wide, .bool true]) :=
    .inl rfl
  have refused : numbers.fromAbi [wide] = .error overflow := rfl
  obtain ⟨-, -, offence⟩ := correspond (show numbers.isExact = true from rfl)
  exact
    ⟨exact, written, back _ _ written, (read raw _).mpr ⟨sent, written, rfl⟩, isArray,
      (offence _ _ _ isArray).mpr
        ⟨[.array []], wide, [.bool true], rfl, by simpa using ⟨[], rfl⟩, refused⟩⟩

end SlotType

end ContractGateway
