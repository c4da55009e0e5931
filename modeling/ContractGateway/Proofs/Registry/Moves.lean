import ContractGateway.Registry.Basic

/-!
# What a step does to the registry

Every step of the registry is one of a few moves: a lookup enters, takes an identity, calls the
resolver or queues, an answer fills a cell or passes the turn on, a name is forgotten, or nothing
happens. `Registry.move_step` takes a step apart once, and what holds of the registry is proved of
the moves.
-/

namespace ContractGateway

/-- The cell in which a lookup stands that has not finished. -/
def LookupPhase.cell? : LookupPhase → Option Nat
  | .arrived index | .waiting index | .chosen index | .resolving index => some index
  | .finished _ => none

namespace Registry

/-- A registry with one lookup more. -/
def enter (registry : Registry) (entry : Lookup) : Registry :=
  { registry with lookups := registry.lookups ++ [entry] }

/-- A registry with an empty cell for a name. -/
def found (registry : Registry) (name : String) : Registry :=
  { registry with
    cells := registry.cells ++ [{}]
    names := registry.names ++ [(name, registry.cells.length)] }

section Updates

variable (registry : Registry) (lookup index : Nat)

theorem phase?_of_lookup
    {registry : Registry}
    {lookup : Nat}
    {name : String}
    {phase : LookupPhase}
    (found : registry.lookups[lookup]? = some ⟨name, phase⟩) :
    registry.phase? lookup = some phase := by
  rw [phase?, found]
  rfl

/-- A lookup that has not begun stands nowhere. -/
theorem phase?_length : registry.phase? registry.lookups.length = none := by
  rw [phase?, List.getElem?_eq_none (Nat.le_refl _)]
  rfl

@[simp, grind =] theorem phase?_setPhase (phase : LookupPhase) (other : Nat) :
    (registry.setPhase lookup phase).phase? other =
      if other = lookup then (registry.phase? other).map (fun _ => phase)
      else registry.phase? other := by
  simp only [phase?, setPhase, List.getElem?_modify]
  by_cases same : other = lookup
  · rw [if_pos same]
    cases registry.lookups[other]? <;> simp [same]
  · rw [if_neg same]
    cases registry.lookups[other]? <;> simp [Ne.symm same]

@[simp, grind =] theorem phase?_setCell (cell : Cell) (other : Nat) :
    (registry.setCell index cell).phase? other = registry.phase? other := rfl

@[simp, grind =] theorem cell_setPhase (phase : LookupPhase) (other : Nat) :
    (registry.setPhase lookup phase).cell other = registry.cell other := rfl

@[simp, grind =] theorem cell_setCell (cell : Cell) (other : Nat) :
    (registry.setCell index cell).cell other =
      if other = index ∧ index < registry.cells.length then cell else registry.cell other := by
  simp only [Registry.cell, setCell, List.getD_eq_getElem?_getD, List.getElem?_set]
  by_cases same : index = other
  · subst same
    by_cases inside : index < registry.cells.length <;> simp [inside]
  · simp [same, Ne.symm same]

@[simp] theorem length_setCell (cell : Cell) :
    (registry.setCell index cell).cells.length = registry.cells.length :=
  List.length_set

@[simp] theorem lookups_setCell (cell : Cell) :
    (registry.setCell index cell).lookups = registry.lookups := rfl

@[simp, grind =] theorem cells_setPhase (phase : LookupPhase) :
    (registry.setPhase lookup phase).cells = registry.cells := rfl

/-- The names that the lookups were begun with stay as they are. -/
@[simp] theorem names_setPhase (phase : LookupPhase) :
    (registry.setPhase lookup phase).lookups.map (·.name) = registry.lookups.map (·.name) := by
  apply List.ext_getElem?
  intro other
  simp only [setPhase, List.getElem?_map, List.getElem?_modify]
  cases registry.lookups[other]? with
  | none => rfl
  | some found => by_cases same : lookup = other <;> simp [same]

/-- A call is a change of the phase, apart from its being noted. -/
@[simp, grind =] theorem phase?_call (other : Nat) :
    (registry.call lookup index).phase? other =
      (registry.setPhase lookup (.resolving index)).phase? other := rfl

@[simp, grind =] theorem cells_call : (registry.call lookup index).cells = registry.cells := rfl

@[simp, grind =] theorem cell_call (other : Nat) :
    (registry.call lookup index).cell other = registry.cell other := rfl

@[simp] theorem names_call :
    (registry.call lookup index).lookups.map (·.name) = registry.lookups.map (·.name) :=
  registry.names_setPhase lookup (.resolving index)

@[grind =] theorem phase?_enter (entry : Lookup) (other : Nat) :
    (registry.enter entry).phase? other =
      if other = registry.lookups.length then some entry.phase else registry.phase? other := by
  simp only [phase?, enter, List.getElem?_append]
  grind

@[simp, grind =] theorem cell_enter (entry : Lookup) (other : Nat) :
    (registry.enter entry).cell other = registry.cell other := rfl

@[simp, grind =] theorem phase?_found (name : String) (other : Nat) :
    (registry.found name).phase? other = registry.phase? other := rfl

/-- A new cell is empty, as positions read that are not in use. -/
@[simp, grind =] theorem cell_found (name : String) (other : Nat) :
    (registry.found name).cell other = registry.cell other := by
  simp only [Registry.cell, found, List.getD_eq_getElem?_getD, List.getElem?_append]
  grind

variable (name : String) (resolution : Resolution)

/-- The identity that an answer gives to its lookup. -/
def identityFor : Identity :=
  ⟨registry.nextSerial, ⟨name, resolution.address, resolution.methods⟩⟩

@[simp, grind =] theorem phase?_fill (other : Nat) :
    (registry.fill lookup index name resolution).phase? other =
      (registry.setPhase lookup
        (.finished (.ok (registry.identityFor name resolution)))).phase? other := rfl

@[simp, grind =] theorem cell_fill (other : Nat) :
    (registry.fill lookup index name resolution).cell other =
      (registry.setCell index
        { identity := some (registry.identityFor name resolution) }).cell other := rfl

@[simp] theorem length_fill :
    (registry.fill lookup index name resolution).cells.length = registry.cells.length :=
  List.length_set

@[simp] theorem names_fill :
    (registry.fill lookup index name resolution).lookups.map (·.name) =
      registry.lookups.map (·.name) :=
  registry.names_setPhase lookup (.finished (.ok (registry.identityFor name resolution)))

end Updates

/-- What a step can do. -/
inductive Move (registry : Registry) : RegistryStep → Registry → Prop where
  | enters (name : String) (index : Nat)
      (known : registry.names.lookup name = some index) :
      Move registry (.begin name) (registry.enter ⟨name, .arrived index⟩)
  | founds (name : String)
      (unknown : registry.names.lookup name = none) :
      Move registry (.begin name)
        ((registry.found name).enter ⟨name, .arrived registry.cells.length⟩)
  | takes (lookup index : Nat) (identity : Identity)
      (stands :
        registry.phase? lookup = some (.arrived index) ∨
          registry.phase? lookup = some (.waiting index))
      (filled : (registry.cell index).identity = some identity) :
      Move registry (.advance lookup) (registry.setPhase lookup (.finished (.ok identity)))
  | opens (lookup index : Nat)
      (stands : registry.phase? lookup = some (.arrived index))
      (empty : (registry.cell index).identity = none)
      (free : (registry.cell index).holder = none) :
      Move registry (.advance lookup)
        ((registry.setCell index { registry.cell index with holder := some lookup }).call
          lookup index)
  | queues (lookup index holder : Nat)
      (stands : registry.phase? lookup = some (.arrived index))
      (empty : (registry.cell index).identity = none)
      (busy : (registry.cell index).holder = some holder) :
      Move registry (.advance lookup)
        ((registry.setCell index
            { registry.cell index with queue := (registry.cell index).queue ++ [lookup] }).setPhase
          lookup (.waiting index))
  | calls (lookup index : Nat)
      (stands : registry.phase? lookup = some (.chosen index)) :
      Move registry (.advance lookup) (registry.call lookup index)
  | waits (lookup : Nat)
      (begun : ∀ index, registry.phase? lookup ≠ some (.arrived index))
      (uncalled : ∀ index, registry.phase? lookup ≠ some (.chosen index))
      (unfilled :
        ∀ index,
          registry.phase? lookup = some (.waiting index) →
            (registry.cell index).identity = none) :
      Move registry (.advance lookup) registry
  | fills (lookup index : Nat) (name : String) (resolution : Resolution)
      (stands : registry.lookups[lookup]? = some ⟨name, .resolving index⟩) :
      Move registry (.settle lookup (.ok resolution))
        (registry.fill lookup index name resolution)
  | fails (lookup index : Nat) (name reason : String)
      (stands : registry.lookups[lookup]? = some ⟨name, .resolving index⟩)
      (alone : (registry.cell index).queue = []) :
      Move registry (.settle lookup (.error reason))
        ((registry.setPhase lookup (.finished (.error (.unknownContract name reason)))).setCell
          index {})
  | passes (lookup index : Nat) (name reason : String) (next : Nat) (queue : List Nat)
      (stands : registry.lookups[lookup]? = some ⟨name, .resolving index⟩)
      (followed : (registry.cell index).queue = next :: queue) :
      Move registry (.settle lookup (.error reason))
        (((registry.setPhase lookup (.finished (.error (.unknownContract name reason)))).setCell
            index { holder := some next, queue }).setPhase next (.chosen index))
  | ignores (lookup : Nat) (answer : Except String Resolution)
      (idle : ∀ index, registry.phase? lookup ≠ some (.resolving index)) :
      Move registry (.settle lookup answer) registry
  | forgets (name : String) : Move registry (.invalidate name) (registry.invalidate name)

theorem move_begin (registry : Registry) (name : String) :
    Move registry (.begin name) (registry.begin name).2 := by
  rw [begin, cellOf]
  cases known : registry.names.lookup name with
  | some index => exact .enters name index known
  | none => exact .founds name known

theorem move_advance (registry : Registry) (lookup : Nat) :
    Move registry (.advance lookup) (registry.advance lookup) := by
  rw [advance]
  split
  · rename_i index stands
    dsimp only
    split
    · rename_i holder identity filled
      exact .takes lookup index identity (.inl stands) filled
    · rename_i empty free
      exact .opens lookup index stands empty free
    · rename_i holder empty busy
      exact .queues lookup index holder stands empty busy
  · rename_i index stands
    split
    · rename_i identity filled
      exact .takes lookup index identity (.inr stands) filled
    · rename_i empty
      refine .waits lookup (by simp [stands]) (by simp [stands]) fun place stood => ?_
      cases stands.symm.trans stood
      exact empty
  · rename_i index stands
    exact .calls lookup index stands
  · rename_i arrived waiting chosen
    exact .waits lookup arrived chosen fun index stands => absurd stands (waiting index)

theorem move_settle
    (registry : Registry)
    (lookup : Nat)
    (answer : Except String Resolution) :
    Move registry (.settle lookup answer) (registry.settle lookup answer) := by
  rw [settle]
  split
  · rename_i name index stands
    cases answer with
    | ok resolution => exact .fills lookup index name resolution stands
    | error reason =>
        change Move registry _ (registry.fail lookup index name reason)
        rw [fail]
        split
        · rename_i alone
          exact .fails lookup index name reason stands alone
        · rename_i next queue followed
          exact .passes lookup index name reason next queue stands followed
  · rename_i idle
    refine .ignores lookup answer fun index stood => ?_
    rw [phase?] at stood
    obtain ⟨⟨name, phase⟩, found, rfl⟩ := Option.map_eq_some_iff.mp stood
    exact idle name index found

/-- Every step is a move. -/
theorem move_step (registry : Registry) (step : RegistryStep) :
    Move registry step (registry.step step) := by
  cases step with
  | begin name => exact registry.move_begin name
  | advance lookup => exact registry.move_advance lookup
  | settle lookup answer => exact registry.move_settle lookup answer
  | invalidate name => exact .forgets name

end Registry

end ContractGateway
