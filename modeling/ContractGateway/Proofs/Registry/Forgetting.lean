import ContractGateway.Proofs.Registry.Interleavings
import ContractGateway.Session.Lookups

/-!
# What forgetting a name reports

A name has a cell from the first lookup of it on, and the cell is filled when one of the lookups
succeeds. A lookup that fails leaves its cell behind, empty. Forgetting a name answers whether there
was a cell, so it answers yes after lookups that have all failed or have not finished, although no
identity was cached.

`Sought` says which lookups count: those that have begun since the name was last forgotten. The name
has a cell exactly when there is one (`hasCell_iff`), and an identity exactly when one of them has
succeeded (`isCached_iff`).
-/

namespace ContractGateway

namespace Calendar

/-- Every cell was made for a lookup of its term. -/
theorem mem_cells_iff
    (steps : List RegistryStep)
    (term : Term) :
    term ∈ (of steps).cells ↔ term ∈ (of steps).lookups := by
  induction steps using List.reverseRecOn with
  | nil =>
      simp [of]
  | append_singleton steps last inductionHypothesis =>
      rw [of_concat]
      cases last with
      | begin name =>
          simp only [step]
          split <;> grind
      | _ =>
          exact inductionHypothesis

end Calendar

namespace Registry

/-- A lookup of a name that has begun since the name was last forgotten. -/
def Sought (steps : List RegistryStep) (name : String) (lookup : Nat) : Prop :=
  ∃ before after,
    steps = before ++ .begin name :: after ∧
      .invalidate name ∉ after ∧ lookup = (run {} before).lookups.length

/-- One of the lookups of a name since the name was last forgotten has succeeded. -/
def Resolved (steps : List RegistryStep) (name : String) : Prop :=
  ∃ lookup identity,
    Sought steps name lookup ∧ (run {} steps).result? lookup = some (.ok identity)

section Runs

variable {steps : List RegistryStep} {name : String} {lookup : Nat}

/-- Every lookup has begun in some step, in the term that its name was in. -/
theorem exists_begin
    {term : Term}
    (began : (Calendar.of steps).lookups[lookup]? = some term) :
    ∃ before after,
      steps = before ++ .begin term.name :: after ∧
        lookup = (run {} before).lookups.length ∧
        (Calendar.of before).current term.name = term := by
  induction steps using List.reverseRecOn with
  | nil =>
      cases began
  | append_singleton steps last inductionHypothesis =>
      rw [Calendar.of_concat] at began
      have earlier (known : (Calendar.of steps).lookups[lookup]? = some term) :
          ∃ before after,
            steps ++ [last] = before ++ .begin term.name :: after ∧
              lookup = (run {} before).lookups.length ∧
              (Calendar.of before).current term.name = term := by
        obtain ⟨before, after, rfl, position, current⟩ := inductionHypothesis known
        exact ⟨before, after ++ [last], by simp, position, current⟩
      cases last with
      | begin other =>
          have now :
              (Calendar.of steps).lookups[lookup]? = some term ∨
                lookup = (Calendar.of steps).lookups.length ∧
                  (Calendar.of steps).current other = term := by
            simp only [Calendar.step] at began
            grind
          rcases now with known | ⟨position, rfl⟩
          · exact earlier known
          · rw [← (inOrder_run steps).housed.length_lookups] at position
            exact ⟨steps, [], rfl, position, rfl⟩
      | _ =>
          exact earlier began

/-- The lookups that were sought are those of the present term. -/
theorem sought_iff :
    Sought steps name lookup ↔
      (Calendar.of steps).lookups[lookup]? = some ((Calendar.of steps).current name) := by
  constructor
  · rintro ⟨before, after, rfl, kept, rfl⟩
    rw [lookups_begin, (Calendar.current_append_iff before after name).mpr kept]
  · intro began
    obtain ⟨before, after, split, position, current⟩ := exists_begin began
    rw [Calendar.current] at split current
    refine ⟨before, after, split, ?_, position⟩
    rw [← Calendar.current_append_iff before after name, ← split]
    exact current.symm

/-- A name has a cell when a lookup of it has begun since it was last forgotten. -/
theorem hasCell_iff :
    (run {} steps).hasCell name = true ↔ ∃ lookup, Sought steps name lookup := by
  have housed := (inOrder_run steps).housed
  rw [hasCell, Option.isSome_iff_exists]
  simp only [housed.current, sought_iff, ← List.mem_iff_getElem?]
  exact Calendar.mem_cells_iff steps _

/-- The lookup whose call made an identity has it. -/
theorem Produced.found
    {identity : Identity}
    (produced : Produced steps lookup identity) :
    (run {} steps).phase? lookup = some (.finished (.ok identity)) := by
  obtain ⟨name, resolution, _, ⟨before, after, index, rfl, rfl, calls⟩, rfl⟩ := produced
  rw [List.append_cons]
  apply finished_run
  rw [run_concat, step, settle, calls]
  simp [phase?_of_lookup calls]

/-- A name has an identity when one of the lookups since it was last forgotten has succeeded. -/
theorem isCached_iff : (run {} steps).isCached name = true ↔ Resolved steps name := by
  have order := inOrder_run steps
  constructor
  · intro cached
    rw [isCached] at cached
    split at cached
    · rename_i index found
      obtain ⟨identity, filled⟩ := Option.isSome_iff_exists.mp cached
      obtain ⟨caller, term, produced, began, made⟩ := produced_of_filled filled
      obtain rfl := Option.some.inj (((order.housed.current name index).mp found).symm.trans made)
      exact ⟨caller, identity, sought_iff.mpr began, (result?_eq_some_iff _ _ _).mpr produced.found⟩
    · cases cached
  · rintro ⟨lookup, identity, sought, found⟩
    have done := (result?_eq_some_iff _ _ _).mp found
    have began := sought_iff.mp sought
    obtain ⟨term, index, same, made⟩ := order.housed.exists_cell done
    obtain rfl := Option.some.inj (began.symm.trans same)
    rw [isCached, (order.housed.current name index).mpr made]
    simp [order.shared lookup index identity done (made.trans began.symm)]

end Runs

/-- A name that is forgotten has no identity, and the others keep theirs. -/
theorem isCached_invalidate
    (registry : Registry)
    (name other : String) :
    (registry.invalidate name).isCached other =
      if other = name then false else registry.isCached other := by
  have found : (registry.invalidate name).names.lookup other = _ :=
    lookup_filter registry.names name other
  rw [isCached, found]
  by_cases same : other = name
  · simp only [if_pos same]
  · simp only [if_neg same]
    rfl

/--
In any state that lookups and forgetting lead to, forgetting a name answers whether a lookup of it
has begun since it was last forgotten. This is whether the name had an identity, unless all these
lookups have failed or are unfinished. Afterwards the name has no identity, and other names are
as they were.
-/
theorem invalidate_reports
    (steps : List RegistryStep)
    (session : Session)
    (world : World Scripted.State)
    (name : String) :
    let registry := run {} steps
    let before : Session := { session with registry }
    ∃ (reply : Bool) (after : Session),
      (((Session.performLookup (.invalidate name)).run before).run world).1 =
          (.ok (.flag reply), after) ∧
        (reply = true ↔ ∃ lookup, Sought steps name lookup) ∧
        (registry.isCached name = true ↔ Resolved steps name) ∧
        (reply = registry.isCached name ↔
          ((∃ lookup, Sought steps name lookup) → Resolved steps name)) ∧
        after.registry.isCached name = false ∧
        ∀ other, other ≠ name → after.registry.isCached other = registry.isCached other := by
  intro registry before
  refine ⟨registry.hasCell name, { before with registry := registry.invalidate name }, rfl,
    hasCell_iff, isCached_iff, ?_, ?_, fun other different => ?_⟩
  · have found (cached : registry.isCached name = true) : registry.hasCell name = true := by
      obtain ⟨lookup, identity, sought, -⟩ := isCached_iff.mp cached
      exact hasCell_iff.mpr ⟨lookup, sought⟩
    rw [← hasCell_iff, ← isCached_iff, Bool.eq_iff_iff]
    exact ⟨Iff.mp, fun filled => ⟨filled, found⟩⟩
  · simp [isCached_invalidate]
  · simp [isCached_invalidate, different]

/-- A name whose only lookup has failed is reported as forgotten, although it had no identity. -/
theorem unresolved_isReported :
    let registry := run {} [.begin "vault", .advance 0, .settle 0 (.error "offline")]
    let session : Session := { resolver := ⟨[], 0⟩, registry }
    let performed (step : LookupStep) :=
      (((Session.performLookup step).run session).run (World.start {})).1.1
    performed (.isCached "vault") = .ok (.flag false) ∧
      performed (.invalidate "vault") = .ok (.flag true) :=
  ⟨rfl, rfl⟩

end Registry

end ContractGateway
