import ContractGateway.Proofs.Abi.Widths
import ContractGateway.Proofs.Abi.Layout
import ContractGateway.Proofs.Slot.RoundTrip

/-!
# The form that a slot value is sent in

A value is sent in the form of the parameter that takes it. `AbiValue.Resized` says which form that
is, without saying how it is found: numbers keep their word and take on the width of the parameter
if they lie below its bound, lists do so item by item, and all else is of one form only.

Fitting a value to a type and checking it afterwards comes to the same, for whatever a slot sends:
`SlotType.resized_iff`. No integer changes on the way: `AbiValue.Resized.integers_eq`.
-/

namespace ContractGateway

open AbiValue

/-- A number has at most so many bits when it lies below the power that they reach. -/
theorem bitLength_le_iff (number width : Nat) : bitLength number ≤ width ↔ number < 2 ^ width := by
  rw [bitLength]
  by_cases zero : number = 0
  · rw [if_pos zero, zero]
    exact iff_of_true (Nat.zero_le width) (Nat.two_pow_pos width)
  · rw [if_neg zero, Nat.succ_le_iff, Nat.log2_lt zero]

namespace AbiValue

mutual

/-- The form that a value of a slot takes on where a type is expected. -/
inductive Resized : AbiValue → AbiType → AbiValue → Prop where
  | bool (value : Bool) : Resized (.bool value) .bool (.bool value)
  | address (value : Address) : Resized (.address value) .address (.address value)
  | bytes32 (word : Word) :
      Resized (.fixedBytes word 32) (.fixedBytes 32) (.fixedBytes word 32)
  | bytes (value : Bytes) : Resized (.bytes value) .bytes (.bytes value)
  | string (value : String) : Resized (.string value) .string (.string value)
  /-- An unsigned parameter takes the numbers below the bound of its width. -/
  | uint (word : Word) (width bits : Nat)
      (below : word.toNat < 2 ^ bits) :
      Resized (.uint word width) (.uint bits) (.uint word bits)
  /-- A signed parameter has one bit less for them. -/
  | int (word : Word) (width bits : Nat)
      (below : word.toNat < 2 ^ bits) :
      Resized (.uint word width) (.int (bits + 1)) (.int word (bits + 1))
  | array (items arguments : List AbiValue) (item : AbiType)
      (each : ResizedAll items item arguments) :
      Resized (.array items) (.array item) (.array arguments)
  | fixedArray (items arguments : List AbiValue) (item : AbiType)
      (each : ResizedAll items item arguments) :
      Resized (.array items) (.fixedArray item items.length) (.fixedArray arguments)

/-- The forms that several values of a slot take on where one type is expected. -/
inductive ResizedAll : List AbiValue → AbiType → List AbiValue → Prop where
  | nil (type : AbiType) : ResizedAll [] type []
  | cons (value argument : AbiValue) (values arguments : List AbiValue) (type : AbiType)
      (first : Resized value type argument)
      (rest : ResizedAll values type arguments) :
      ResizedAll (value :: values) type (argument :: arguments)

end

mutual

/-- The integers that a value holds, in order. -/
def integers : AbiValue → List Int
  | .int word _ => [word.toInt]
  | .uint word _ => [(word.toNat : Int)]
  | .array items | .fixedArray items | .tuple items => integersOfAll items
  | _ => []

/-- The integers that several values hold, in order. -/
def integersOfAll : List AbiValue → List Int
  | [] => []
  | value :: rest => value.integers ++ integersOfAll rest

end

theorem ResizedAll.length_eq
    {values arguments : List AbiValue}
    {type : AbiType}
    (resized : ResizedAll values type arguments) :
    arguments.length = values.length := by
  match resized with
  | .nil _ => rfl
  | .cons _ _ _ _ _ _ rest => rw [List.length_cons, List.length_cons, rest.length_eq]

/-- A word below the bound of a width that integers come in has its sign bit clear. -/
theorem toInt_of_lt
    {word : Word}
    {bits : Nat}
    (proper : AbiType.admitsBits (bits + 1) = true)
    (below : word.toNat < 2 ^ bits) :
    word.toInt = word.toNat := by
  have narrow : bits ≤ 255 := by
    simp only [AbiType.admitsBits, Bool.and_eq_true, decide_eq_true_eq] at proper
    omega
  have half : 2 ^ bits ≤ 2 ^ 255 := Nat.pow_le_pow_right (by decide) narrow
  rw [BitVec.toInt_eq_toNat_cond, if_pos (by omega)]

mutual

theorem Resized.integers_eq
    {value argument : AbiValue}
    {type : AbiType}
    (resized : Resized value type argument)
    (sized : type.isSized = true) :
    argument.integers = value.integers := by
  match resized with
  | .bool _ | .address _ | .bytes32 _ | .bytes _ | .string _ | .uint _ _ _ _ => rfl
  | .int _ _ _ below => rw [integers, integers, toInt_of_lt sized below]
  | .array _ _ _ each => exact each.integers_eq sized
  | .fixedArray _ _ _ each => exact each.integers_eq sized

theorem ResizedAll.integers_eq
    {values arguments : List AbiValue}
    {type : AbiType}
    (resized : ResizedAll values type arguments)
    (sized : type.isSized = true) :
    integersOfAll arguments = integersOfAll values := by
  match resized with
  | .nil _ => rfl
  | .cons _ _ _ _ _ first rest =>
      rw [integersOfAll, integersOfAll, first.integers_eq sized, rest.integers_eq sized]

end

mutual

/-- A slot sends no signed integers, they only come of resizing. -/
theorem Resized.holdsSigned_eq
    {value argument : AbiValue}
    {type : AbiType}
    (resized : Resized value type argument) :
    value.holdsSigned = false := by
  match resized with
  | .bool _ | .address _ | .bytes32 _ | .bytes _ | .string _ | .uint _ _ _ _ | .int _ _ _ _ => rfl
  | .array _ _ _ each => exact each.anyHoldsSigned_eq
  | .fixedArray _ _ _ each => exact each.anyHoldsSigned_eq

theorem ResizedAll.anyHoldsSigned_eq
    {values arguments : List AbiValue}
    {type : AbiType}
    (resized : ResizedAll values type arguments) :
    anyHoldsSigned values = false := by
  match resized with
  | .nil _ => rfl
  | .cons _ _ _ _ _ first rest =>
      rw [anyHoldsSigned, first.holdsSigned_eq, rest.anyHoldsSigned_eq]
      rfl

end

/-- A number is fitted to the parameters that it takes on the form of. -/
theorem resized_uint_iff
    (word : Word)
    (width : Nat)
    (type : AbiType)
    (argument : AbiValue) :
    ((uint word width).fitTo type = .ok argument ∧ argument.fits type = true) ↔
      Resized (.uint word width) type argument := by
  cases type with
  | uint bits =>
      have bound := bitLength_le_iff word.toNat bits
      rw [fitTo]
      split
      · constructor
        · rintro ⟨⟨⟩, -⟩
        · rintro ⟨⟩
          omega
      · constructor
        · rintro ⟨⟨⟩, -⟩
          exact .uint word width bits (bound.mp (by omega))
        · rintro ⟨⟩
          exact ⟨rfl, decide_eq_true rfl⟩
  | int bits =>
      rw [fitTo]
      split
      · constructor
        · rintro ⟨⟨⟩, -⟩
        · intro resized
          cases resized with
          | int _ _ bits below =>
              have bound := (bitLength_le_iff word.toNat bits).mpr below
              omega
      · constructor
        · rintro ⟨⟨⟩, -⟩
          cases bits with
          | zero => omega
          | succ bits => exact .int word width bits ((bitLength_le_iff _ _).mp (by omega))
        · rintro ⟨⟩
          exact ⟨rfl, decide_eq_true rfl⟩
  | _ =>
      constructor
      · rintro ⟨⟨⟩, fitting⟩
        cases fitted_of_fits fitting
      · rintro ⟨⟩

/-- Values are fitted item by item when each one that a list item is sent as is. -/
theorem resizedAll_iff
    {slot : SlotType}
    {type : AbiType}
    (each :
      ∀ {value : slot.Value} {raw argument : AbiValue},
        slot.toAbi value = .ok raw →
        ((raw.fitTo type = .ok argument ∧ argument.fits type = true) ↔
          Resized raw type argument))
    {values : List slot.Value}
    {raws arguments : List AbiValue}
    (sent : values.mapM slot.toAbi = .ok raws) :
    (fitAll raws type = .ok arguments ∧ allFit arguments type = true) ↔
      ResizedAll raws type arguments := by
  induction values generalizing raws arguments with
  | nil =>
      cases sent
      constructor
      · rintro ⟨⟨⟩, -⟩
        exact .nil type
      · rintro ⟨⟩
        exact ⟨rfl, rfl⟩
  | cons value rest inductionHypothesis =>
      obtain ⟨raw, others, here, behind, rfl⟩ := Results.exists_ok_of_mapM_cons sent
      constructor
      · rintro ⟨fitted, fitting⟩
        obtain ⟨argument, arguments, first, later, rfl⟩ := fitAll_cons fitted
        obtain ⟨fits, fit⟩ := allFit_cons fitting
        exact
          .cons raw argument others arguments type ((each here).mp ⟨first, fits⟩)
            ((inductionHypothesis behind).mp ⟨later, fit⟩)
      · intro resized
        cases resized with
        | cons _ argument _ arguments _ first later =>
            obtain ⟨fitted, fits⟩ := (each here).mpr first
            obtain ⟨fittedAll, fit⟩ := (inductionHypothesis behind).mpr later
            refine ⟨?_, Bool.and_eq_true_iff.mpr ⟨fits, fit⟩⟩
            rw [fitAll, fitted]
            change (fitAll others type >>= _) = _
            rw [fittedAll]
            rfl

/-- A list is fitted to an array type as its items are, if their number is right. -/
theorem resized_array_iff
    {raws : List AbiValue}
    (each :
      ∀ {item : AbiType} {arguments : List AbiValue},
        (fitAll raws item = .ok arguments ∧ allFit arguments item = true) ↔
          ResizedAll raws item arguments)
    (type : AbiType)
    (argument : AbiValue) :
    ((array raws).fitTo type = .ok argument ∧ argument.fits type = true) ↔
      Resized (.array raws) type argument := by
  cases type with
  | array item =>
      constructor
      · rintro ⟨fitted, fitting⟩
        obtain ⟨arguments, inside, same⟩ := Results.exists_ok_of_bind fitted
        cases same
        exact .array raws arguments item (each.mp ⟨inside, fitting⟩)
      · intro resized
        cases resized with
        | array _ arguments _ all =>
            obtain ⟨inside, fitting⟩ := each.mpr all
            rw [fitTo, inside]
            exact ⟨rfl, fitting⟩
  | fixedArray item length =>
      constructor
      · rintro ⟨fitted, fitting⟩
        obtain ⟨arguments, inside, same⟩ := Results.exists_ok_of_bind fitted
        cases same
        cases fitted_of_fits fitting with
        | fixedArray _ _ members =>
            have all := each.mp ⟨inside, members⟩
            rw [all.length_eq]
            exact .fixedArray raws arguments item all
      · intro resized
        cases resized with
        | fixedArray _ arguments _ all =>
            obtain ⟨inside, fitting⟩ := each.mpr all
            rw [fitTo, inside]
            exact ⟨rfl, Bool.and_eq_true_iff.mpr ⟨decide_eq_true all.length_eq, fitting⟩⟩
  | _ =>
      constructor
      · rintro ⟨⟨⟩, fitting⟩
        cases fitted_of_fits fitting
      · rintro ⟨⟩

end AbiValue

/--
The form that a slot value is sent as is fitted to a type, and fits it then, exactly when it takes
on the form that is expected.
-/
theorem SlotType.resized_iff
    {slot : SlotType}
    {value : slot.Value}
    {raw argument : AbiValue}
    {type : AbiType}
    (sent : slot.toAbi value = .ok raw) :
    (raw.fitTo type = .ok argument ∧ argument.fits type = true) ↔
      raw.Resized type argument := by
  induction slot generalizing raw argument type with
  | unit host =>
      obtain ⟨word, -, same⟩ := Results.exists_ok_of_bind sent
      cases same
      exact resized_uint_iff word _ type argument
  | raw host =>
      cases sent
      exact resized_uint_iff value 256 type argument
  | list item inductionHypothesis =>
      obtain ⟨raws, inside, same⟩ := Results.exists_ok_of_bind sent
      cases same
      exact resized_array_iff (resizedAll_iff inductionHypothesis inside) type argument
  | _ =>
      cases sent
      constructor
      · rintro ⟨⟨⟩, fitting⟩
        cases fitted_of_fits fitting
        constructor
      · rintro ⟨⟩
        exact ⟨rfl, rfl⟩

end ContractGateway
