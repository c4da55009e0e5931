import ContractGateway.Proofs.Registry.Terms
import Mathlib.Data.List.Induction

/-!
# What lookups of one term share

Lookups of one term find the same cell, so one of them at most calls the resolver at a time, and the
identity that a call has filled the cell with is what all of them get: `Registry.Shared`. Where
results come from is read off the steps before: an identity from the answer to one call of the term,
an error from the answer to the lookup's own call.
-/

namespace ContractGateway

namespace Registry

/-- A lookup that succeeded has the identity in the cell of its term. -/
def Shared (registry : Registry) (calendar : Calendar) : Prop :=
  ∀ lookup index identity,
    registry.phase? lookup = some (.finished (.ok identity)) →
      calendar.cells[index]? = calendar.lookups[lookup]? →
        (registry.cell index).identity = some identity

section Steps

variable {registry : Registry} {calendar : Calendar}

/-- A lookup that calls the resolver finds its cell empty. -/
theorem Manned.identity_eq_none
    (manned : registry.Manned)
    {index lookup : Nat}
    (holds :
      registry.phase? lookup = some (.chosen index) ∨
        registry.phase? lookup = some (.resolving index)) :
    (registry.cell index).identity = none := by
  have holder := (manned.held index lookup).mpr holds
  cases found : (registry.cell index).identity with
  | none => rfl
  | some identity =>
      rw [(manned.filled index identity found).1] at holder
      cases holder

/-- A lookup that has finished stays as it is. -/
theorem Manned.finished_step
    (manned : registry.Manned)
    {lookup : Nat}
    {result : Except GatewayError Identity}
    (done : registry.phase? lookup = some (.finished result))
    (step : RegistryStep) :
    (registry.step step).phase? lookup = some (.finished result) := by
  have move := registry.move_step step
  generalize registry.step step = after at move
  have outside := registry.phase?_length
  cases move with
  | passes caller index name reason next queue stands followed =>
      have stood := phase?_of_lookup stands
      have waited := manned.waits_of_followed followed
      grind
  | fills caller index name resolution stands =>
      have stood := phase?_of_lookup stands
      grind
  | fails caller index name reason stands alone =>
      have stood := phase?_of_lookup stands
      grind
  | forgets name => exact done
  | _ =>
      grind [found]

/-- A lookup fails when its own call is answered with an error. -/
theorem Manned.failed_step
    (manned : registry.Manned)
    {lookup : Nat}
    {error : GatewayError}
    {step : RegistryStep}
    (failed : (registry.step step).phase? lookup = some (.finished (.error error))) :
    registry.phase? lookup = some (.finished (.error error)) ∨
      ∃ index name reason,
        step = .settle lookup (.error reason) ∧
          registry.lookups[lookup]? = some ⟨name, .resolving index⟩ ∧
          error = .unknownContract name reason := by
  have move := registry.move_step step
  generalize registry.step step = after at move failed
  cases move with
  | fills caller index name resolution stands =>
      have stood := phase?_of_lookup stands
      grind
  | fails caller index name reason stands alone =>
      have stood := phase?_of_lookup stands
      grind
  | passes caller index name reason next queue stands followed =>
      have stood := phase?_of_lookup stands
      have waited := manned.waits_of_followed followed
      grind
  | forgets name => exact .inl failed
  | _ =>
      grind

/-- A cell is filled when a call for it is answered with an identity. -/
theorem filled_step
    {index : Nat}
    {identity : Identity}
    {step : RegistryStep}
    (filled : ((registry.step step).cell index).identity = some identity) :
    (registry.cell index).identity = some identity ∨
      ∃ lookup name resolution,
        step = .settle lookup (.ok resolution) ∧
          registry.lookups[lookup]? = some ⟨name, .resolving index⟩ ∧
          identity = registry.identityFor name resolution := by
  have move := registry.move_step step
  generalize registry.step step = after at move filled
  cases move with
  | forgets name => exact .inl filled
  | _ =>
      grind

/-- A resolver call is begun by a lookup of an empty cell. -/
theorem Manned.calls_step
    (manned : registry.Manned)
    (step : RegistryStep) :
    (registry.step step).calls = registry.calls ∨
      ∃ lookup phase index,
        (registry.step step).calls = lookup :: registry.calls ∧
          registry.phase? lookup = some phase ∧
          phase.cell? = some index ∧
          (registry.cell index).identity = none := by
  have move := registry.move_step step
  generalize registry.step step = after at move
  cases move with
  | opens lookup index stands empty free =>
      exact .inr ⟨lookup, _, index, rfl, stands, rfl, empty⟩
  | calls lookup index stands =>
      exact .inr ⟨lookup, _, index, rfl, stands, rfl, manned.identity_eq_none (.inl stands)⟩
  | _ => exact .inl rfl

/-- Lookups of one term go on sharing an identity. -/
theorem Shared.step
    (shared : registry.Shared calendar)
    (housed : registry.Housed calendar)
    (manned : registry.Manned)
    (step : RegistryStep) :
    (registry.step step).Shared (calendar.step step) := by
  intro lookup index identity done same
  have unique := @(housed.step manned step).cell_unique
  -- A lookup that had succeeded before has the cell that its term had before.
  have earlier (stood : registry.phase? lookup = some (.finished (.ok identity))) :
      (registry.cell index).identity = some identity := by
    obtain ⟨term, place, began, made⟩ := housed.exists_cell stood
    rw [calendar.lookups_step step began] at same
    obtain rfl := unique same (calendar.cells_step step made)
    exact shared lookup index identity stood (made.trans began.symm)
  have move := registry.move_step step
  generalize registry.step step = after at move done ⊢
  cases move with
  | enters name place known =>
      grind
  | founds name unknown =>
      grind
  | takes caller place found stands filled =>
      obtain ⟨phase, stood, placed⟩ :
          ∃ phase, registry.phase? caller = some phase ∧ phase.cell? = some place := by
        rcases stands with stood | stood
        · exact ⟨_, stood, rfl⟩
        · exact ⟨_, stood, rfl⟩
      obtain ⟨term, began, made, -⟩ := housed.exists_placed stood placed
      grind [Calendar.step]
  | opens caller place stands empty free =>
      grind [Calendar.step]
  | queues caller place holder stands empty busy =>
      grind [Calendar.step]
  | calls caller place stands =>
      grind [Calendar.step]
  | waits caller => exact earlier done
  | fills caller place name resolution stands =>
      have stood := phase?_of_lookup stands
      have empty := manned.identity_eq_none (.inr stood)
      obtain ⟨term, began, made, inside⟩ := housed.exists_placed stood rfl
      grind [Calendar.step]
  | fails caller place name reason stands alone =>
      have stood := phase?_of_lookup stands
      have empty := manned.identity_eq_none (.inr stood)
      grind [Calendar.step]
  | passes caller place name reason next queue stands followed =>
      have stood := phase?_of_lookup stands
      have empty := manned.identity_eq_none (.inr stood)
      have waited := manned.waits_of_followed followed
      grind [Calendar.step]
  | ignores caller answer => exact earlier done
  | forgets name => exact earlier done

end Steps

end Registry

end ContractGateway
