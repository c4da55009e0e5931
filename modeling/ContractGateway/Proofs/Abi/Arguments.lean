import ContractGateway.Abi.Encoding
import ContractGateway.Proofs.Results

/-!
# When arguments are encoded

Arguments are checked before they are encoded, in the same order as their parameters. The check
passes when every parameter names a type and the arguments fit these types one by one, and then
nothing can go wrong any more: `Abi.encodeFor_eq_ok_iff`.
-/

namespace ContractGateway

open Abi AbiValue

/-- Several parameters resolve when the first one and the others do. -/
theorem Parameter.resolveAll_cons_iff
    (parameter : Parameter)
    (rest : List Parameter)
    (types : List AbiType) :
    resolveAll (parameter :: rest) = .ok types ↔
      ∃ type others,
        parameter.resolve = .ok type ∧ resolveAll rest = .ok others ∧ types = type :: others := by
  constructor
  · intro resolves
    obtain ⟨type, first, resolves⟩ := Results.exists_ok_of_bind resolves
    obtain ⟨others, later, same⟩ := Results.exists_ok_of_bind resolves
    exact ⟨type, others, first, later, (Except.ok.inj same).symm⟩
  · rintro ⟨type, others, first, later, rfl⟩
    rw [resolveAll, first]
    change (resolveAll rest >>= _) = _
    rw [later]
    rfl

theorem Parameter.length_resolveAll
    {parameters : List Parameter}
    {types : List AbiType}
    (resolves : resolveAll parameters = .ok types) :
    types.length = parameters.length := by
  induction parameters generalizing types with
  | nil =>
      cases resolves
      rfl
  | cons parameter rest inductionHypothesis =>
      obtain ⟨type, others, -, later, rfl⟩ := (resolveAll_cons_iff parameter rest types).mp resolves
      rw [List.length_cons, List.length_cons, inductionHypothesis later]

/-- Several parameters resolve when the last one and those before it do. -/
theorem Parameter.resolveAll_append_singleton_iff
    (parameters : List Parameter)
    (last : Parameter)
    (types : List AbiType) :
    resolveAll (parameters ++ [last]) = .ok types ↔
      ∃ front type,
        resolveAll parameters = .ok front ∧ last.resolve = .ok type ∧ types = front ++ [type] := by
  induction parameters generalizing types with
  | nil =>
      rw [List.nil_append, resolveAll_cons_iff]
      constructor
      · rintro ⟨type, others, resolves, ⟨⟩, rfl⟩
        exact ⟨[], type, rfl, resolves, rfl⟩
      · rintro ⟨front, type, ⟨⟩, resolves, rfl⟩
        exact ⟨type, [], resolves, rfl, rfl⟩
  | cons parameter rest inductionHypothesis =>
      rw [List.cons_append, resolveAll_cons_iff]
      constructor
      · rintro ⟨first, others, here, behind, rfl⟩
        obtain ⟨front, type, before, resolves, rfl⟩ := (inductionHypothesis others).mp behind
        refine ⟨first :: front, type, ?_, resolves, rfl⟩
        exact (resolveAll_cons_iff parameter rest _).mpr ⟨first, front, here, before, rfl⟩
      · rintro ⟨front, type, before, resolves, rfl⟩
        obtain ⟨first, others, here, behind, rfl⟩ :=
          (resolveAll_cons_iff parameter rest front).mp before
        exact
          ⟨first, others ++ [type], here,
            (inductionHypothesis _).mpr ⟨others, type, behind, resolves, rfl⟩, rfl⟩

theorem AbiValue.length_of_eachFits
    {values : List AbiValue}
    {types : List AbiType}
    (members : eachFits values types = true) :
    values.length = types.length := by
  induction values generalizing types with
  | nil =>
      cases types with
      | nil => rfl
      | cons type others => cases members
  | cons value rest inductionHypothesis =>
      cases types with
      | nil => cases members
      | cons type others =>
          rw [List.length_cons, List.length_cons,
            inductionHypothesis (Bool.and_eq_true_iff.mp members).2]

/-- Several values fit when the last one and those before it do. -/
theorem AbiValue.eachFits_append_singleton_iff
    (values : List AbiValue)
    (types : List AbiType)
    (last : AbiValue)
    (type : AbiType) :
    eachFits (values ++ [last]) (types ++ [type]) = true ↔
      eachFits values types = true ∧ last.fits type = true := by
  induction values generalizing types with
  | nil =>
      cases types with
      | nil => simp [eachFits]
      | cons first others => cases others <;> simp [eachFits]
  | cons value rest inductionHypothesis =>
      cases types with
      | nil => cases rest <;> simp [eachFits]
      | cons first others => simp [eachFits, inductionHypothesis, and_assoc]

namespace Abi

/-- As many values as parameters pass the check when they fit the types of the parameters. -/
theorem checkEach_eq_ok_iff
    {parameters : List Parameter}
    {values : List AbiValue}
    (asMany : parameters.length = values.length) :
    checkEach parameters values = .ok () ↔
      ∃ types, Parameter.resolveAll parameters = .ok types ∧ eachFits values types = true := by
  induction parameters generalizing values with
  | nil =>
      obtain rfl : values = [] := List.eq_nil_of_length_eq_zero asMany.symm
      exact ⟨fun _ => ⟨[], rfl, rfl⟩, fun _ => rfl⟩
  | cons parameter rest inductionHypothesis =>
      cases values with
      | nil => cases asMany
      | cons value values =>
          have continues := inductionHypothesis (Nat.succ.inj asMany)
          rw [checkEach]
          constructor
          · intro passes
            split at passes
            · cases passes
            · rename_i type resolves
              split at passes
              · rename_i fitting
                obtain ⟨types, others, members⟩ := continues.mp passes
                exact
                  ⟨type :: types,
                    (Parameter.resolveAll_cons_iff _ _ _).mpr ⟨type, types, resolves, others, rfl⟩,
                    Bool.and_eq_true_iff.mpr ⟨fitting, members⟩⟩
              · cases passes
          · rintro ⟨types, resolves, members⟩
            obtain ⟨type, others, first, later, rfl⟩ :=
              (Parameter.resolveAll_cons_iff _ _ _).mp resolves
            obtain ⟨fitting, behind⟩ := Bool.and_eq_true_iff.mp members
            simp only [first, fitting, if_true]
            exact continues.mpr ⟨others, later, behind⟩

/-- Arguments are encoded when all parameters have types and the arguments fit them. -/
theorem encodeFor_eq_ok_iff
    (parameters : List Parameter)
    (values : List AbiValue)
    (data : Bytes) :
    encodeFor parameters values = .ok data ↔
      ∃ types,
        Parameter.resolveAll parameters = .ok types ∧
          eachFits values types = true ∧ data = encode values := by
  rw [encodeFor]
  by_cases asMany : parameters.length = values.length
  · rw [if_neg (not_not_intro asMany)]
    constructor
    · intro encodes
      obtain ⟨⟨⟩, passes, same⟩ := Results.exists_ok_of_bind encodes
      obtain ⟨types, resolves, members⟩ := (checkEach_eq_ok_iff asMany).mp passes
      exact ⟨types, resolves, members, (Except.ok.inj same).symm⟩
    · rintro ⟨types, resolves, members, rfl⟩
      change (checkEach parameters values >>= _) = _
      rw [(checkEach_eq_ok_iff asMany).mpr ⟨types, resolves, members⟩]
      rfl
  · rw [if_pos asMany]
    constructor
    · intro encodes
      cases encodes
    · rintro ⟨types, resolves, members, -⟩
      have lengths := length_of_eachFits members
      rw [Parameter.length_resolveAll resolves] at lengths
      exact absurd lengths.symm asMany

end Abi

end ContractGateway
