import ContractGateway.Proofs.Abi.Arguments

/-!
# Declared types have proper widths

Integers come in whole bytes up to a word, and byte strings of a fixed size in up to a word as well.
A type text names no other widths, so whatever type a parameter resolves to is made of types of
proper widths: `Parameter.isSized_of_resolve`.
-/

namespace ContractGateway

namespace AbiType

mutual

/-- Whether all integers and fixed byte strings in a type have a width that they come in. -/
def isSized : AbiType → Bool
  | .int bits | .uint bits => admitsBits bits
  | .fixedBytes size => admitsSize size
  | .array item | .fixedArray item _ => item.isSized
  | .tuple items => allSized items
  | _ => true

/-- Whether each of several types is made of types of proper widths. -/
def allSized : List AbiType → Bool
  | [] => true
  | item :: rest => item.isSized && allSized rest

end

theorem isSized_arrayOf
    {item : AbiType}
    (sized : item.isSized = true)
    (length : Option Nat) :
    (item.arrayOf length).isSized = true := by
  cases length <;> exact sized

/-- A width behind a word is checked. -/
theorem isSized_of_sized
    {word : String}
    {digits : List Char}
    {admits : Nat → Bool}
    {make : Nat → AbiType}
    {type : AbiType}
    (gives : sized word digits admits make = .ok type)
    (makes : ∀ width, admits width = true → (make width).isSized = true) :
    type.isSized = true := by
  rw [sized] at gives
  split at gives
  · rename_i proper
    cases gives
    exact makes _ (Bool.and_eq_true_iff.mp proper).2
  · cases gives

theorem isSized_of_ofSizedName
    {word : String}
    {type : AbiType}
    (gives : ofSizedName word = .ok type) :
    type.isSized = true := by
  rw [ofSizedName] at gives
  split at gives
  · exact isSized_of_sized gives fun _ proper => proper
  · exact isSized_of_sized gives fun _ proper => proper
  · exact isSized_of_sized gives fun _ proper => proper
  · cases gives

theorem isSized_of_ofName
    {word : String}
    {type : AbiType}
    (gives : ofName word = .ok type) :
    type.isSized = true := by
  unfold ofName at gives
  split at gives
  case h_8 => exact isSized_of_ofSizedName gives
  all_goals
    cases gives
    decide

end AbiType

namespace TypeText

open AbiType

mutual

/-- The type of a text has proper widths, the type of each text in it having them. -/
theorem isSized_of_resolve
    (text : TypeText)
    {type : AbiType}
    (resolves : text.resolve = .ok type) :
    type.isSized = true := by
  match text with
  | .name word => exact isSized_of_ofName resolves
  | .member _ _ =>
      cases resolves
      decide
  | .list items =>
      obtain ⟨types, inside, rfl⟩ := Results.exists_ok_of_map resolves
      exact allSized_of_resolveAll items inside
  | .array item length =>
      obtain ⟨inner, inside, rfl⟩ := Results.exists_ok_of_map resolves
      exact isSized_arrayOf (isSized_of_resolve item inside) length

theorem allSized_of_resolveAll
    (texts : List TypeText)
    {types : List AbiType}
    (resolves : resolveAll texts = .ok types) :
    allSized types = true := by
  match texts with
  | [] =>
      cases resolves
      rfl
  | text :: rest =>
      obtain ⟨type, first, resolves⟩ := Results.exists_ok_of_bind resolves
      obtain ⟨others, later, same⟩ := Results.exists_ok_of_bind resolves
      cases same
      exact
        Bool.and_eq_true_iff.mpr
          ⟨isSized_of_resolve text first, allSized_of_resolveAll rest later⟩

end

theorem isSized_around
    (text : TypeText)
    {item : AbiType}
    (sized : item.isSized = true) :
    (text.around item).isSized = true := by
  induction text using TypeText.around.induct with
  | case1 inner length inductionHypothesis =>
      rw [around]
      exact isSized_arrayOf inductionHypothesis length
  | case2 text other =>
      rw [around]
      · exact sized
      · exact other

end TypeText

namespace Parameter

open AbiType

mutual

/-- The type of a parameter has proper widths. -/
theorem isSized_of_resolve
    (parameter : Parameter)
    {type : AbiType}
    (resolves : parameter.resolve = .ok type) :
    type.isSized = true := by
  match parameter with
  | .mk text components =>
      rw [resolve] at resolves
      obtain ⟨written, -, resolves⟩ := Results.exists_ok_of_bind resolves
      split at resolves
      · exact written.isSized_of_resolve resolves
      · obtain ⟨types, inside, same⟩ := Results.exists_ok_of_bind resolves
        cases same
        have sized : (tuple types).isSized = true := allSized_of_resolveAll components inside
        exact written.isSized_around sized

theorem allSized_of_resolveAll
    (parameters : List Parameter)
    {types : List AbiType}
    (resolves : resolveAll parameters = .ok types) :
    allSized types = true := by
  match parameters with
  | [] =>
      cases resolves
      rfl
  | parameter :: rest =>
      obtain ⟨type, others, first, later, rfl⟩ :=
        (resolveAll_cons_iff parameter rest types).mp resolves
      exact
        Bool.and_eq_true_iff.mpr
          ⟨isSized_of_resolve parameter first, allSized_of_resolveAll rest later⟩

end

end Parameter

end ContractGateway
