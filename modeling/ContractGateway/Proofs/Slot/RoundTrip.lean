import ContractGateway.Proofs.Results
import ContractGateway.Slot.Value

/-!
# Slot values are read as they were sent

The word that a host value is sent as stands for that value again, in every unit but ratios, which
round. Of a whole argument that was fitted to a parameter, just the unsigned integers are read back:
`SlotType.ofAbi_of_fitTo`.
-/

namespace ContractGateway

open AbiValue

/-- Whether a failure says that the return data does not have the declared form. -/
def SlotError.isDecode : SlotError → Bool
  | .conversion _ => false
  | _ => true

namespace WireEnum

/-- No two variants share an index. -/
theorem eq_of_index_eq
    {declared : WireEnum}
    {first second : declared.Variant}
    (same : declared.index first = declared.index second) :
    first = second := by
  have listed (variant : declared.Variant) :
      (declared.variants.map (·.2))[variant.val]? = some (declared.index variant) := by
    simp [index]
  have places :
      (declared.variants.map (·.2))[first.val]? = (declared.variants.map (·.2))[second.val]? := by
    rw [listed, listed, same]
  have inside : first.val < (declared.variants.map (·.2)).length := by simp
  exact Fin.ext ((List.getElem?_inj inside declared.indices_nodup).mp places)

/-- The index of a variant stands for that variant. -/
theorem ofIndex?_index
    (declared : WireEnum)
    (variant : declared.Variant) :
    declared.ofIndex? (declared.index variant) = some variant := by
  have found : (declared.ofIndex? (declared.index variant)).isSome = true :=
    List.find?_isSome.mpr ⟨variant, List.mem_finRange variant, by simp⟩
  obtain ⟨other, same⟩ := Option.isSome_iff_exists.mp found
  have alike : declared.index other = declared.index variant := by
    simpa using List.find?_some same
  rw [same, eq_of_index_eq alike]

theorem index_lt
    (declared : WireEnum)
    (variant : declared.Variant) :
    declared.index variant < 256 :=
  declared.indices_lt _ (List.getElem_mem variant.isLt)

end WireEnum

namespace HostUnit

/-- A word keeps the number it is made from. -/
theorem toNat_word
    {number : Nat}
    (small : number < 2 ^ 256) :
    (BitVec.ofNat 256 number).toNat = number := by
  rw [BitVec.toNat_ofNat]
  exact Nat.mod_eq_of_lt small

/-- Whole seconds are written when there is no rest. -/
theorem secondsToWire_eq_ok
    {unit : String}
    {seconds nanos : Nat}
    {raw : Word}
    (written : secondsToWire unit seconds nanos = .ok raw) :
    nanos = 0 ∧ raw = BitVec.ofNat 256 seconds := by
  rw [secondsToWire] at written
  split at written
  · rename_i whole
    exact ⟨whole, (Except.ok.inj written).symm⟩
  · cases written

/-- The word of a host value stands for that value. -/
theorem fromWire_of_toWire
    {unit : HostUnit}
    (exact : unit ≠ .ratio)
    {value : unit.Value}
    {raw : Word}
    (written : unit.toWire value = .ok raw) :
    unit.fromWire raw = .ok value := by
  cases unit with
  | unsigned width =>
      cases written
      have below : value.toNat < 2 ^ width.bits := value.isLt
      have narrow : 2 ^ width.bits ≤ 2 ^ 256 :=
        Nat.pow_le_pow_right (by decide) (by cases width <;> decide)
      rw [fromWire, toNat_word (Nat.lt_of_lt_of_le below narrow), if_pos below]
      simp
  | i64 =>
      rw [toWire] at written
      split at written
      · cases written
      · rename_i positive
        cases written
        have below : value.toNat < 2 ^ 64 := value.isLt
        have number : value.toInt.toNat = value.toNat ∧ value.toNat < 2 ^ 63 := by
          rw [BitVec.toInt_eq_toNat_cond] at positive ⊢
          split at positive <;> rename_i half
          · rw [if_pos half]
            omega
          · omega
        have small : value.toNat < 2 ^ 256 := by omega
        rw [fromWire, number.1, toNat_word small, if_pos number.2]
        simp
  | word =>
      cases written
      rfl
  | ratio =>
      exact absurd rfl exact
  | duration =>
      obtain ⟨whole, rfl⟩ := secondsToWire_eq_ok written
      have small : value.seconds < 2 ^ 256 := by
        have below := value.seconds_lt
        omega
      rw [fromWire, toNat_word small, Duration.ofSeconds?, dif_pos value.seconds_lt]
      cases value
      cases whole
      rfl
  | timestamp =>
      rw [toWire] at written
      split at written
      · cases written
      · rename_i positive
        obtain ⟨whole, rfl⟩ := secondsToWire_eq_ok written
        have below := value.seconds_lt
        have fits : value.seconds.toNat < 2 ^ 63 := by omega
        rw [fromWire, toNat_word (by omega), Timestamp.ofSeconds?, dif_pos fits]
        have seconds : (value.seconds.toNat : Int) = value.seconds := by omega
        cases value
        cases whole
        simpa using seconds
  | enumeration declared =>
      cases written
      have below := declared.index_lt value
      rw [fromWire, toNat_word (by omega), if_pos below, declared.ofIndex?_index]

end HostUnit

namespace AbiValue

mutual

/-- Whether a signed integer stands somewhere in a value. -/
def holdsSigned : AbiValue → Bool
  | .int _ _ => true
  | .array items | .fixedArray items | .tuple items => anyHoldsSigned items
  | _ => false

/-- Whether a signed integer stands somewhere in one of several values. -/
def anyHoldsSigned : List AbiValue → Bool
  | [] => false
  | value :: rest => value.holdsSigned || anyHoldsSigned rest

end

/-- A fitted integer keeps its number. -/
theorem fitTo_uint
    {word : Word}
    {bits : Nat}
    {type : AbiType}
    {argument : AbiValue}
    (fitted : (uint word bits).fitTo type = .ok argument) :
    (∃ width, argument = .uint word width) ∨ ∃ width, argument = .int word width := by
  cases type with
  | uint width =>
      rw [fitTo] at fitted
      split at fitted
      · cases fitted
      · exact .inl ⟨width, (Except.ok.inj fitted).symm⟩
  | int width =>
      rw [fitTo] at fitted
      split at fitted
      · cases fitted
      · exact .inr ⟨width, (Except.ok.inj fitted).symm⟩
  | _ => exact .inl ⟨bits, (Except.ok.inj fitted).symm⟩

/-- Nothing is fitted to a type that is no integer and no array. -/
theorem fitTo_bool (value : AbiValue) : value.fitTo .bool = .ok value := by
  cases value <;> rfl

theorem fitAll_bool (values : List AbiValue) : fitAll values .bool = .ok values := by
  induction values with
  | nil =>
      rfl
  | cons value rest inductionHypothesis =>
      rw [fitAll, fitTo_bool, inductionHypothesis]
      rfl

/-- A fitted array is an array of its fitted items. -/
theorem fitTo_array
    {items : List AbiValue}
    {type : AbiType}
    {argument : AbiValue}
    (fitted : (array items).fitTo type = .ok argument) :
    ∃ inner arguments,
      fitAll items inner = .ok arguments ∧
        (argument = .array arguments ∨ argument = .fixedArray arguments) := by
  cases type with
  | array inner =>
      obtain ⟨arguments, inside, same⟩ := Results.exists_ok_of_bind fitted
      exact ⟨inner, arguments, inside, .inl (Except.ok.inj same).symm⟩
  | fixedArray inner length =>
      obtain ⟨arguments, inside, same⟩ := Results.exists_ok_of_bind fitted
      exact ⟨inner, arguments, inside, .inr (Except.ok.inj same).symm⟩
  | _ => exact ⟨.bool, items, fitAll_bool items, .inl (Except.ok.inj fitted).symm⟩

theorem fitAll_cons
    {value : AbiValue}
    {rest arguments : List AbiValue}
    {type : AbiType}
    (fitted : fitAll (value :: rest) type = .ok arguments) :
    ∃ first others,
      value.fitTo type = .ok first ∧ fitAll rest type = .ok others ∧
        arguments = first :: others := by
  obtain ⟨first, here, fitted⟩ := Results.exists_ok_of_bind fitted
  obtain ⟨others, behind, same⟩ := Results.exists_ok_of_bind fitted
  exact ⟨first, others, here, behind, (Except.ok.inj same).symm⟩

end AbiValue

namespace SlotType

/-- Whether no value of the slot type is rounded on its way. -/
def isExact : SlotType → Bool
  | .unit host => host ≠ .ratio
  | .list item => item.isExact
  | _ => true

/-- What comes out of a slot: a value, or a failure of form when a condition does not hold. -/
def Restores {α : Type} (result : Except SlotError α) (value : α) (condition : Bool) : Prop :=
  if condition = true then result = .ok value
  else ∃ error, result = .error error ∧ error.isDecode = true

/-- A list is restored when each of its items is. -/
theorem restores_list
    {item : SlotType}
    (each :
      ∀ {value : item.Value} {raw argument : AbiValue} {type : AbiType},
        item.toAbi value = .ok raw →
        raw.fitTo type = .ok argument →
        Restores (item.ofAbi argument) value (!argument.holdsSigned))
    {values : List item.Value}
    {raws arguments : List AbiValue}
    {type : AbiType}
    (written : values.mapM item.toAbi = .ok raws)
    (fitted : AbiValue.fitAll raws type = .ok arguments) :
    Restores (arguments.mapM item.ofAbi) values (!anyHoldsSigned arguments) := by
  induction values generalizing raws arguments with
  | nil =>
      cases written
      cases fitted
      rfl
  | cons value rest inductionHypothesis =>
      obtain ⟨raw, others, first, later, rfl⟩ := Results.exists_ok_of_mapM_cons written
      obtain ⟨argument, arguments, fits, fit, rfl⟩ := fitAll_cons fitted
      have here := each first fits
      have behind := inductionHypothesis later fit
      rw [anyHoldsSigned, Restores, List.mapM_cons]
      cases signed : argument.holdsSigned with
      | true =>
          rw [signed] at here
          obtain ⟨error, fails, decodes⟩ := here
          rw [fails]
          exact ⟨error, rfl, decodes⟩
      | false =>
          rw [signed] at here
          have restored : item.ofAbi argument = .ok value := here
          rw [restored]
          cases others : anyHoldsSigned arguments with
          | true =>
              rw [others] at behind
              obtain ⟨error, fails, decodes⟩ := behind
              change ∃ error, (arguments.mapM item.ofAbi >>= _) = _ ∧ _
              rw [fails]
              exact ⟨error, rfl, decodes⟩
          | false =>
              rw [others] at behind
              have restoredAll : arguments.mapM item.ofAbi = .ok rest := behind
              change (arguments.mapM item.ofAbi >>= _) = _
              rw [restoredAll]
              rfl

/-- The argument that a number is sent as restores it unless it is signed. -/
theorem restores_number
    {slot : SlotType}
    {value : slot.Value}
    {word : Word}
    {bits : Nat}
    {argument : AbiValue}
    {type : AbiType}
    (fitted : (AbiValue.uint word bits).fitTo type = .ok argument)
    (unsigned : ∀ width, slot.ofAbi (.uint word width) = .ok value)
    (signed :
      ∀ width,
        slot.ofAbi (.int word width) = .error (.shape "uint" (.int word width))) :
    Restores (slot.ofAbi argument) value (!argument.holdsSigned) := by
  rcases fitTo_uint fitted with ⟨width, rfl⟩ | ⟨width, rfl⟩
  · exact unsigned width
  · exact ⟨_, signed width, rfl⟩

/-- An argument restores the value it was made from unless it holds a signed integer. -/
theorem restores_of_fitTo
    {slot : SlotType}
    (exact : slot.isExact = true)
    {value : slot.Value}
    {raw argument : AbiValue}
    {type : AbiType}
    (written : slot.toAbi value = .ok raw)
    (fitted : raw.fitTo type = .ok argument) :
    Restores (slot.ofAbi argument) value (!argument.holdsSigned) := by
  induction slot generalizing raw argument type with
  | unit host =>
      obtain ⟨word, sent, same⟩ := Results.exists_ok_of_bind written
      cases same
      have unrounded : host ≠ .ratio := of_decide_eq_true exact
      refine restores_number fitted (fun width => ?_) (fun width => rfl)
      change converted (host.fromWire word) = _
      rw [HostUnit.fromWire_of_toWire unrounded sent]
      rfl
  | raw host =>
      cases written
      exact restores_number fitted (fun width => rfl) (fun width => rfl)
  | list item inductionHypothesis =>
      obtain ⟨raws, sent, same⟩ := Results.exists_ok_of_bind written
      cases same
      obtain ⟨inner, arguments, inside, shape⟩ := fitTo_array fitted
      have all := restores_list (inductionHypothesis exact) sent inside
      rcases shape with rfl | rfl <;> exact all
  | _ =>
      cases written
      cases fitted
      rfl

end SlotType

end ContractGateway
