import ContractGateway.Proofs.Registry.Moves
import Mathlib.Data.List.Basic

/-!
# The terms of a run

Forgetting a name ends a term of it: lookups of the name that begin before and after belong to
different terms, and all others of one name to the same. A calendar is kept beside the registry and
notes the term of every lookup and of every cell; it follows from the steps alone. In a registry
that runs, each term has a cell of its own, and the lookups that have not finished stand in the cell
of their term: `Registry.Housed`.
-/

namespace ContractGateway

/-- The time of a name between two occasions on which it is forgotten. -/
structure Term where
  name : String
  /-- How often the name was forgotten before. -/
  forgotten : Nat
  deriving DecidableEq, Repr

/-- The terms of a run. -/
structure Calendar where
  /-- How often each name was forgotten. -/
  forgotten : String → Nat := fun _ => 0
  /-- The term that each cell was made in. -/
  cells : List Term := []
  /-- The term that each lookup began in. -/
  lookups : List Term := []

namespace Calendar

/-- The present term of a name. -/
def current (calendar : Calendar) (name : String) : Term := ⟨name, calendar.forgotten name⟩

/-- The calendar after one more step. -/
def step (calendar : Calendar) : RegistryStep → Calendar
  | .begin name =>
      let term := calendar.current name
      { calendar with
        cells := if term ∈ calendar.cells then calendar.cells else calendar.cells ++ [term]
        lookups := calendar.lookups ++ [term] }
  | .invalidate name =>
      { calendar with
        forgotten := fun other =>
          if other = name then calendar.forgotten other + 1 else calendar.forgotten other }
  | .advance _ | .settle _ _ => calendar

/-- The calendar of some steps. -/
def of (steps : List RegistryStep) : Calendar := steps.foldl step {}

theorem of_append (first second : List RegistryStep) :
    of (first ++ second) = second.foldl step (of first) :=
  List.foldl_append

theorem of_concat (steps : List RegistryStep) (last : RegistryStep) :
    of (steps ++ [last]) = (of steps).step last :=
  of_append steps [last]

section Prefixes

variable (calendar : Calendar) {position : Nat} {term : Term} (step : RegistryStep)

/-- Lookups keep their terms. -/
theorem lookups_step (began : calendar.lookups[position]? = some term) :
    (calendar.step step).lookups[position]? = some term := by
  cases step <;> grind [Calendar.step]

/-- Cells keep their terms. -/
theorem cells_step (made : calendar.cells[position]? = some term) :
    (calendar.step step).cells[position]? = some term := by
  cases step <;> grind [Calendar.step]

/-- A name is forgotten more often with every step that forgets it, and with no other. -/
theorem forgotten_step (name : String) :
    calendar.forgotten name ≤ (calendar.step step).forgotten name ∧
      ((calendar.step step).forgotten name = calendar.forgotten name ↔
        step ≠ .invalidate name) := by
  cases step <;> grind [Calendar.step]

variable (steps : List RegistryStep)

theorem lookups_foldl (began : calendar.lookups[position]? = some term) :
    (steps.foldl Calendar.step calendar).lookups[position]? = some term := by
  induction steps generalizing calendar with
  | nil => exact began
  | cons step rest inductionHypothesis =>
      exact inductionHypothesis _ (calendar.lookups_step step began)

theorem forgotten_foldl (name : String) :
    calendar.forgotten name ≤ (steps.foldl Calendar.step calendar).forgotten name ∧
      ((steps.foldl Calendar.step calendar).forgotten name = calendar.forgotten name ↔
        .invalidate name ∉ steps) := by
  induction steps generalizing calendar with
  | nil => simp
  | cons step rest inductionHypothesis =>
      obtain ⟨now, same⟩ := calendar.forgotten_step step name
      obtain ⟨later, others⟩ := inductionHypothesis (calendar.step step)
      rw [List.foldl_cons, List.mem_cons]
      grind

/-- A lookup that begins later belongs to the present term of its name or to a later one. -/
theorem forgotten_le_of_begun_later
    (began : (steps.foldl Calendar.step calendar).lookups[position]? = some term)
    (later : calendar.lookups.length ≤ position) :
    calendar.forgotten term.name ≤ term.forgotten := by
  induction steps generalizing calendar with
  | nil =>
      rw [List.foldl_nil, List.getElem?_eq_none later] at began
      cases began
  | cons step rest inductionHypothesis =>
      have now := (calendar.forgotten_step step term.name).1
      by_cases further : (calendar.step step).lookups.length ≤ position
      · exact Nat.le_trans now (inductionHypothesis _ began further)
      · cases step with
        | begin other =>
            have here : position = calendar.lookups.length := by
              simp only [Calendar.step, List.length_append, List.length_singleton] at further
              omega
            have entry :
                (calendar.step (.begin other)).lookups[position]? =
                  some (calendar.current other) := by
              rw [here]
              exact List.getElem?_concat_length
            obtain rfl :=
              Option.some.inj ((lookups_foldl _ rest entry).symm.trans began)
            exact Nat.le_refl _
        | _ => exact absurd later further

end Prefixes

/-- A name that is not forgotten stays in its term. -/
theorem current_append_iff
    (before after : List RegistryStep)
    (name : String) :
    (of (before ++ .begin name :: after)).current name = (of before).current name ↔
      .invalidate name ∉ after := by
  have terms := (((of before).step (.begin name)).forgotten_foldl after name).2
  rw [of_append, List.foldl_cons, ← terms, current, current, Term.mk.injEq]
  exact and_iff_right rfl

end Calendar

namespace Registry

theorem run_append (registry : Registry) (first second : List RegistryStep) :
    registry.run (first ++ second) = (registry.run first).run second :=
  List.foldl_append

theorem run_concat (registry : Registry) (steps : List RegistryStep) (last : RegistryStep) :
    registry.run (steps ++ [last]) = (registry.run steps).step last :=
  registry.run_append steps [last]

/-- Each term has one cell, and the lookups that have not finished stand in those of their terms. -/
structure Housed (registry : Registry) (calendar : Calendar) : Prop where
  named : registry.lookups.map (·.name) = calendar.lookups.map (·.name)
  allotted : registry.cells.length = calendar.cells.length
  distinct : calendar.cells.Nodup
  bygone : ∀ term ∈ calendar.cells, term.forgotten ≤ calendar.forgotten term.name
  housed : ∀ term ∈ calendar.lookups, term ∈ calendar.cells
  current :
    ∀ name index,
      registry.names.lookup name = some index ↔
        calendar.cells[index]? = some (calendar.current name)
  placed :
    ∀ lookup phase index,
      registry.phase? lookup = some phase → phase.cell? = some index →
        calendar.cells[index]? = calendar.lookups[lookup]?

namespace Housed

variable {registry : Registry} {calendar : Calendar}

theorem length_lookups (housed : registry.Housed calendar) :
    registry.lookups.length = calendar.lookups.length := by
  simpa using congrArg List.length housed.named

/-- A lookup has a term of its name. -/
theorem exists_term
    (housed : registry.Housed calendar)
    {lookup : Nat}
    {name : String}
    {phase : LookupPhase}
    (found : registry.lookups[lookup]? = some ⟨name, phase⟩) :
    ∃ forgotten, calendar.lookups[lookup]? = some ⟨name, forgotten⟩ := by
  have names := congrArg (·[lookup]?) housed.named
  simp only [List.getElem?_map, found, Option.map_some] at names
  cases began : calendar.lookups[lookup]? with
  | none =>
      rw [began] at names
      cases names
  | some term =>
      rw [began] at names
      obtain rfl : name = term.name := Option.some.inj names
      exact ⟨term.forgotten, rfl⟩

/-- A lookup that has a term stands somewhere or has finished. -/
theorem exists_phase
    (housed : registry.Housed calendar)
    {lookup : Nat}
    {term : Term}
    (began : calendar.lookups[lookup]? = some term) :
    ∃ phase, registry.phase? lookup = some phase := by
  obtain ⟨inside, -⟩ := List.getElem?_eq_some_iff.mp began
  rw [← housed.length_lookups] at inside
  exact ⟨_, by rw [phase?, List.getElem?_eq_getElem inside]; rfl⟩

/-- Whoever stands anywhere has a term, and the term has a cell. -/
theorem exists_cell
    (housed : registry.Housed calendar)
    {lookup : Nat}
    {phase : LookupPhase}
    (stands : registry.phase? lookup = some phase) :
    ∃ (term : Term) (index : Nat),
      calendar.lookups[lookup]? = some term ∧ calendar.cells[index]? = some term := by
  cases found : registry.lookups[lookup]? with
  | none =>
      rw [phase?, found] at stands
      cases stands
  | some entry =>
      obtain ⟨forgotten, began⟩ := housed.exists_term found
      obtain ⟨index, made⟩ :=
        List.getElem?_of_mem (housed.housed _ (List.mem_of_getElem? began))
      exact ⟨_, index, began, made⟩

/-- Where an unfinished lookup stands is a cell of its term. -/
theorem exists_placed
    (housed : registry.Housed calendar)
    {lookup index : Nat}
    {phase : LookupPhase}
    (stands : registry.phase? lookup = some phase)
    (place : phase.cell? = some index) :
    ∃ term,
      calendar.lookups[lookup]? = some term ∧ calendar.cells[index]? = some term ∧
        index < registry.cells.length := by
  have terms := housed.placed lookup phase index stands place
  obtain ⟨term, -, began, -⟩ := housed.exists_cell stands
  rw [began] at terms
  obtain ⟨inside, -⟩ := List.getElem?_eq_some_iff.mp terms
  exact ⟨term, began, terms, housed.allotted ▸ inside⟩

/-- A term has one cell. -/
theorem cell_unique
    (housed : registry.Housed calendar)
    {index other : Nat}
    {term : Term}
    (here : calendar.cells[index]? = some term)
    (there : calendar.cells[other]? = some term) :
    index = other := by
  obtain ⟨inside, -⟩ := List.getElem?_eq_some_iff.mp here
  exact (List.getElem?_inj inside housed.distinct).mp (here.trans there.symm)

/--
A registry stays housed when nothing but phases change, and whoever stands in a cell after that
stood in it before.
-/
theorem of_phases
    (housed : registry.Housed calendar)
    {changed : Registry}
    (names : changed.lookups.map (·.name) = registry.lookups.map (·.name))
    (cells : changed.cells.length = registry.cells.length)
    (table : changed.names = registry.names)
    (stays :
      ∀ lookup phase index,
        changed.phase? lookup = some phase → phase.cell? = some index →
          ∃ earlier, registry.phase? lookup = some earlier ∧ earlier.cell? = some index) :
    changed.Housed calendar where
  named := names.trans housed.named
  allotted := cells.trans housed.allotted
  distinct := housed.distinct
  bygone := housed.bygone
  housed := housed.housed
  current := by rw [table]; exact housed.current
  placed := by
    intro lookup phase index stands place
    obtain ⟨earlier, stood, same⟩ := stays lookup phase index stands place
    exact housed.placed lookup earlier index stood same

end Housed

/-- Without the entries of a name, nothing is found under it and all else as before. -/
theorem lookup_filter
    (names : List (String × Nat))
    (name other : String) :
    (names.filter (·.1 ≠ name)).lookup other =
      if other = name then none else names.lookup other := by
  induction names with
  | nil => simp
  | cons first rest inductionHypothesis =>
      obtain ⟨known, index⟩ := first
      by_cases same : known = name <;> by_cases found : other = known <;>
        simp only [List.filter_cons, List.lookup_cons] <;> grind

/--
Who may call the resolver for a cell is the lookup that was chosen or calls; those in its queue
wait, each of them once. Nobody holds a cell that has been filled, and nobody queues for it.
-/
structure Manned (registry : Registry) : Prop where
  held :
    ∀ index lookup,
      (registry.cell index).holder = some lookup ↔
        registry.phase? lookup = some (.chosen index) ∨
          registry.phase? lookup = some (.resolving index)
  queued :
    ∀ index lookup,
      lookup ∈ (registry.cell index).queue → registry.phase? lookup = some (.waiting index)
  orderly : ∀ index, (registry.cell index).queue.Nodup
  filled :
    ∀ index identity,
      (registry.cell index).identity = some identity →
        (registry.cell index).holder = none ∧ (registry.cell index).queue = []

/-- Of the lookups that stand in a cell, one at most was chosen or calls. -/
theorem Manned.eq_of_holds
    {registry : Registry}
    (manned : registry.Manned)
    {index lookup : Nat}
    (holds :
      registry.phase? lookup = some (.chosen index) ∨
        registry.phase? lookup = some (.resolving index))
    (other : Nat)
    (otherHolds :
      registry.phase? other = some (.chosen index) ∨
        registry.phase? other = some (.resolving index)) :
    other = lookup := by
  have holder := (manned.held index lookup).mpr holds
  have otherHolder := (manned.held index other).mpr otherHolds
  exact Option.some.inj (otherHolder.symm.trans holder)

/-- The first lookup of a queue waits. -/
theorem Manned.waits_of_followed
    {registry : Registry}
    (manned : registry.Manned)
    {index next : Nat}
    {queue : List Nat}
    (followed : (registry.cell index).queue = next :: queue) :
    registry.phase? next = some (.waiting index) := by
  apply manned.queued index next
  rw [followed]
  exact List.mem_cons_self

section Steps

variable {registry : Registry} {calendar : Calendar}

/-- A lookup that enters a cell of the present term is housed there. -/
theorem Housed.enters
    (housed : registry.Housed calendar)
    {name : String}
    {index : Nat}
    (known : registry.names.lookup name = some index) :
    (registry.enter ⟨name, .arrived index⟩).Housed (calendar.step (.begin name)) := by
  have found := (housed.current name index).mp known
  have member : calendar.current name ∈ calendar.cells := List.mem_of_getElem? found
  have lengths := housed.length_lookups
  simp only [Calendar.step, if_pos member]
  refine ⟨?_, housed.allotted, housed.distinct, housed.bygone, ?_, housed.current, ?_⟩
  · simp [enter, housed.named, Calendar.current]
  · intro term began
    rcases List.mem_append.mp began with earlier | now
    · exact housed.housed term earlier
    · rw [List.mem_singleton.mp now]
      exact member
  · intro lookup phase place stands placed
    rw [phase?_enter] at stands
    have earlier := housed.placed lookup phase place
    grind [LookupPhase.cell?]

/-- The first lookup of a term makes the cell of the term. -/
theorem Housed.founds
    (housed : registry.Housed calendar)
    {name : String}
    (unknown : registry.names.lookup name = none) :
    ((registry.found name).enter ⟨name, .arrived registry.cells.length⟩).Housed
      (calendar.step (.begin name)) := by
  have absent : calendar.current name ∉ calendar.cells := by
    intro member
    obtain ⟨index, found⟩ := List.getElem?_of_mem member
    rw [(housed.current name index).mpr found] at unknown
    cases unknown
  have lengths := housed.length_lookups
  have standing := @housed.exists_placed
  obtain ⟨named, allotted, distinct, bygone, housed, current, -⟩ := housed
  simp only [Calendar.step, if_neg absent]
  refine ⟨?_, ?_, ?_, ?_, ?_, ?_, ?_⟩
  · simp [enter, found, named, Calendar.current]
  · simp [enter, found, allotted]
  · exact List.nodup_append.mpr ⟨distinct, by simp, by grind⟩
  · intro term made
    rcases List.mem_append.mp made with earlier | now
    · exact bygone term earlier
    · rw [List.mem_singleton.mp now]
      exact Nat.le_refl _
  · grind
  · intro other index
    have before := current other index
    simp only [enter, found, List.lookup_append]
    grind [Calendar.current]
  · intro lookup phase place stands stood
    rw [phase?_enter] at stands
    split at stands
    · rename_i last
      cases stands
      obtain rfl : registry.cells.length = place := Option.some.inj stood
      have entry : registry.lookups.length = lookup := last.symm
      rw [← entry, lengths, allotted, List.getElem?_concat_length, List.getElem?_concat_length]
    · obtain ⟨term, began, made, -⟩ := standing stands stood
      have same (items : List Term) (position : Nat) (here : items[position]? = some term) :
          (items ++ [calendar.current name])[position]? = some term := by
        grind
      rw [same _ _ began, same _ _ made]

/-- A name that is forgotten enters a new term, which has no cell yet. -/
theorem Housed.forgets
    (housed : registry.Housed calendar)
    (name : String) :
    (registry.invalidate name).Housed (calendar.step (.invalidate name)) := by
  obtain ⟨named, allotted, distinct, bygone, housed, current, placed⟩ := housed
  refine ⟨named, allotted, distinct, ?_, housed, ?_, placed⟩
  · intro term made
    have before := bygone term made
    simp only [Calendar.step]
    split <;> omega
  · intro other index
    have before := current other index
    have late (made : calendar.cells[index]? = some ⟨name, calendar.forgotten name + 1⟩) :
        False := by
      have earlier := bygone _ (List.mem_of_getElem? made)
      simp only at earlier
      omega
    simp only [Registry.invalidate, lookup_filter, Calendar.step, Calendar.current] at before ⊢
    split
    · rename_i same
      subst same
      exact iff_of_false (by simp) late
    · exact before

/-- The registry stays housed in every step. -/
theorem Housed.step
    (housed : registry.Housed calendar)
    (manned : registry.Manned)
    (step : RegistryStep) :
    (registry.step step).Housed (calendar.step step) := by
  have move := registry.move_step step
  generalize registry.step step = after at move
  cases move with
  | enters name index known => exact housed.enters known
  | founds name unknown => exact housed.founds unknown
  | takes lookup index identity stands filled =>
      refine housed.of_phases (by simp) rfl rfl ?_
      grind [LookupPhase.cell?]
  | opens lookup index stands empty free =>
      refine housed.of_phases (by simp) (by simp) rfl ?_
      grind [LookupPhase.cell?]
  | queues lookup index holder stands empty busy =>
      refine housed.of_phases (by simp) (by simp) rfl ?_
      grind [LookupPhase.cell?]
  | calls lookup index stands =>
      refine housed.of_phases (by simp) (by simp) rfl ?_
      grind [LookupPhase.cell?]
  | waits lookup => exact housed
  | fills lookup index name resolution stands =>
      have stood := phase?_of_lookup stands
      refine housed.of_phases (by simp) (by simp) rfl ?_
      grind [LookupPhase.cell?]
  | fails lookup index name reason stands alone =>
      have stood := phase?_of_lookup stands
      refine housed.of_phases (by simp) (by simp) rfl ?_
      grind [LookupPhase.cell?]
  | passes lookup index name reason next queue stands followed =>
      have stood := phase?_of_lookup stands
      have waited := manned.waits_of_followed followed
      refine housed.of_phases (by simp) (by simp) rfl ?_
      grind [LookupPhase.cell?]
  | ignores lookup answer => exact housed
  | forgets name => exact housed.forgets name

/-- Every cell is manned after every step. -/
theorem Manned.step
    (manned : registry.Manned)
    (housed : registry.Housed calendar)
    (step : RegistryStep) :
    (registry.step step).Manned := by
  have move := registry.move_step step
  generalize registry.step step = after at move
  -- Whoever calls is the only one to hold its cell, and who stands first in a queue waits there.
  have alone {lookup index : Nat} (stands : registry.phase? lookup = some (.resolving index)) :=
    manned.eq_of_holds (.inr stands)
  have waits := @manned.waits_of_followed
  obtain ⟨held, queued, orderly, filled⟩ := manned
  cases move with
  | enters name index known =>
      have outside := registry.phase?_length
      constructor <;> grind
  | founds name unknown =>
      have outside := registry.phase?_length
      constructor <;> grind [found]
  | takes lookup index identity stands filledCell =>
      have empty := filled index identity filledCell
      constructor <;> grind
  | opens lookup index stands empty free =>
      obtain ⟨term, -, -, inside⟩ := housed.exists_placed stands rfl
      constructor <;> grind
  | queues lookup index holder stands empty busy =>
      obtain ⟨term, -, -, inside⟩ := housed.exists_placed stands rfl
      constructor <;> grind
  | calls lookup index stands =>
      obtain ⟨term, -, -, inside⟩ := housed.exists_placed stands rfl
      constructor <;> grind
  | waits lookup => exact ⟨held, queued, orderly, filled⟩
  | fills lookup index name resolution stands =>
      have stood := phase?_of_lookup stands
      have alone := alone stood
      obtain ⟨term, -, -, inside⟩ := housed.exists_placed stood rfl
      constructor <;> grind
  | fails lookup index name reason stands last =>
      have stood := phase?_of_lookup stands
      have alone := alone stood
      obtain ⟨term, -, -, inside⟩ := housed.exists_placed stood rfl
      constructor <;> grind
  | passes lookup index name reason next queue stands followed =>
      have stood := phase?_of_lookup stands
      have alone := alone stood
      have waited := waits followed
      have distinct := orderly index
      rw [followed, List.nodup_cons] at distinct
      obtain ⟨term, -, -, inside⟩ := housed.exists_placed stood rfl
      constructor <;> grind
  | ignores lookup answer => exact ⟨held, queued, orderly, filled⟩
  | forgets name => exact ⟨held, queued, orderly, filled⟩

end Steps

end Registry

end ContractGateway
