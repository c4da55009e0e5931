import ContractGateway.Proofs.Registry.Answers

/-!
# Names do not meet

What the lookups of one name see of the registry is a desk of their own: how far they have come, and
what the cell of each term of the name holds. Identities are seen without their numbers, and cells
without their positions, which depend on what other names do. Every step of a run acts on the desk
by what is on it (`Registry.desk_concat`), and a step about another name leaves it alone
(`Registry.desk_concat_of_foreign`). So two runs that differ in steps about other names leave the
same at the desk of a name: `Registry.SameFor.desk_eq`.
-/

namespace ContractGateway

/-- How far a lookup has come, without its cell and the number of its identity. -/
inductive Stage where
  | arrived
  | waiting
  | chosen
  | resolving
  | finished (result : Except GatewayError Contract)

namespace Stage

/-- What a lookup has finished with. -/
def result? : Stage → Option (Except GatewayError Contract)
  | .finished result => some result
  | _ => none

/-- Whether a resolver call is in flight. -/
def isResolving : Stage → Bool
  | .resolving => true
  | _ => false

end Stage

/-- How far a lookup has come. -/
def LookupPhase.stage : LookupPhase → Stage
  | .arrived _ => .arrived
  | .waiting _ => .waiting
  | .chosen _ => .chosen
  | .resolving _ => .resolving
  | .finished result => .finished (result.map Identity.contract)

/-- What a cell holds, without the number of its identity. -/
structure Face where
  contract : Option Contract := none
  holder : Option Nat := none
  queue : List Nat := []

/-- What a cell holds. -/
def Cell.face (cell : Cell) : Face := ⟨cell.identity.map Identity.contract, cell.holder, cell.queue⟩

/-- What the lookups of one name see of the registry. -/
@[ext] structure Desk where
  /-- How many lookups of any name have begun. -/
  begun : Nat := 0
  /-- How often the name was forgotten. -/
  forgotten : Nat := 0
  /-- The term of each lookup of the name, and how far it has come. -/
  stage : Nat → Option (Nat × Stage) := fun _ => none
  /-- The cell of each term. -/
  face : Nat → Face := fun _ => {}
  /-- The lookups of the name whose resolver calls have begun, newest first. -/
  calls : List Nat := []

namespace Desk

/-- A lookup comes to a stage. -/
def place (desk : Desk) (lookup term : Nat) (stage : Stage) : Desk :=
  { desk with
    stage := fun other => if other = lookup then some (term, stage) else desk.stage other }

/-- The cell of a term changes. -/
def put (desk : Desk) (term : Nat) (face : Face) : Desk :=
  { desk with face := fun other => if other = term then face else desk.face other }

/-- A lookup begins to call the resolver. -/
def call (desk : Desk) (lookup term : Nat) : Desk :=
  { desk.place lookup term .resolving with calls := lookup :: desk.calls }

/-- A lookup begins. -/
def begin (name : String) (desk : Desk) (other : String) : Desk :=
  if other = name then
    { desk.place desk.begun desk.forgotten .arrived with begun := desk.begun + 1 }
  else { desk with begun := desk.begun + 1 }

/-- A lookup of the name goes on as far as it can. -/
def advance (desk : Desk) (lookup : Nat) : Desk :=
  match desk.stage lookup with
  | some (term, .arrived) =>
      let face := desk.face term
      match face.contract, face.holder with
      | some contract, _ => desk.place lookup term (.finished (.ok contract))
      | none, none => (desk.put term { face with holder := some lookup }).call lookup term
      | none, some _ =>
          (desk.put term { face with queue := face.queue ++ [lookup] }).place lookup term .waiting
  | some (term, .waiting) =>
      match (desk.face term).contract with
      | some contract => desk.place lookup term (.finished (.ok contract))
      | none => desk
  | some (term, .chosen) => desk.call lookup term
  | _ => desk

/-- The call of a lookup of the name is answered. -/
def settle
    (name : String)
    (desk : Desk)
    (lookup : Nat)
    (answer : Except String Resolution) : Desk :=
  match desk.stage lookup with
  | some (term, .resolving) =>
      match answer with
      | .ok resolution =>
          let contract : Contract := ⟨name, resolution.address, resolution.methods⟩
          (desk.put term { contract := some contract }).place lookup term (.finished (.ok contract))
      | .error reason =>
          let failed := desk.place lookup term (.finished (.error (.unknownContract name reason)))
          match (desk.face term).queue with
          | [] => failed.put term {}
          | next :: queue =>
              (failed.put term { holder := some next, queue }).place next term .chosen
  | _ => desk

/-- A name is forgotten. -/
def invalidate (name : String) (desk : Desk) (other : String) : Desk :=
  if other = name then { desk with forgotten := desk.forgotten + 1 } else desk

/-- A step of the registry as the desk of a name takes part in it. -/
def step (name : String) (desk : Desk) : RegistryStep → Desk
  | .begin other => desk.begin name other
  | .advance lookup => desk.advance lookup
  | .settle lookup answer => desk.settle name lookup answer
  | .invalidate other => desk.invalidate name other

end Desk

/-- Whether a lookup is one of a name. -/
def Calendar.isOf (calendar : Calendar) (name : String) (lookup : Nat) : Bool :=
  calendar.lookups[lookup]?.any (·.name = name)

theorem Calendar.isOf_iff (calendar : Calendar) (name : String) (lookup : Nat) :
    calendar.isOf name lookup = true ↔
      ∃ term, calendar.lookups[lookup]? = some term ∧ term.name = name := by
  simp [isOf, Option.any_eq_true]

namespace Registry

/-- The desk of a name. -/
def desk (registry : Registry) (calendar : Calendar) (name : String) : Desk where
  begun := registry.lookups.length
  forgotten := calendar.forgotten name
  stage lookup := do
    let term ← calendar.lookups[lookup]?
    let phase ← registry.phase? lookup
    if term.name = name then some (term.forgotten, phase.stage) else none
  face forgotten := (registry.cell (calendar.cells.idxOf ⟨name, forgotten⟩)).face
  calls := registry.calls.filter (calendar.isOf name)

section Views

variable {registry : Registry} {calendar : Calendar} {name : String} {lookup index : Nat}
  {term : Term}

theorem stage_desk
    (began : calendar.lookups[lookup]? = some term)
    (own : term.name = name)
    {phase : LookupPhase}
    (stands : registry.phase? lookup = some phase) :
    (registry.desk calendar name).stage lookup = some (term.forgotten, phase.stage) := by
  simp [desk, began, stands, own]

theorem stage_desk_of_foreign
    (began : calendar.lookups[lookup]? = some term)
    (foreign : term.name ≠ name) :
    (registry.desk calendar name).stage lookup = none := by
  cases stands : registry.phase? lookup <;> simp [desk, began, stands, foreign]

theorem stage_desk_of_absent (absent : registry.phase? lookup = none) :
    (registry.desk calendar name).stage lookup = none := by
  cases began : calendar.lookups[lookup]? <;> simp [desk, began, absent]

theorem Housed.idxOf_eq_iff
    (housed : registry.Housed calendar)
    (made : calendar.cells[index]? = some term)
    (other : Term) :
    calendar.cells.idxOf other = index ↔ other = term := by
  obtain ⟨inside, here⟩ := List.getElem?_eq_some_iff.mp made
  constructor
  · rintro rfl
    exact (List.getElem_idxOf inside).symm.trans here
  · rintro rfl
    rw [← here]
    exact housed.distinct.idxOf_getElem index inside

theorem Housed.face_desk
    (housed : registry.Housed calendar)
    (made : calendar.cells[index]? = some term)
    (own : term.name = name) :
    (registry.desk calendar name).face term.forgotten = (registry.cell index).face := by
  subst own
  simp only [desk]
  rw [(housed.idxOf_eq_iff made term).mpr rfl]

/-- The phase of a lookup of the name is seen at the desk. -/
theorem desk_setPhase
    (began : calendar.lookups[lookup]? = some term)
    (own : term.name = name)
    {earlier : LookupPhase}
    (stands : registry.phase? lookup = some earlier)
    (phase : LookupPhase) :
    (registry.setPhase lookup phase).desk calendar name =
      (registry.desk calendar name).place lookup term.forgotten phase.stage := by
  simp only [desk, Desk.place, cell_setPhase, Desk.mk.injEq]
  refine ⟨by simp [setPhase], trivial, ?_, trivial, rfl⟩
  funext other
  by_cases same : other = lookup
  · subst same
    simp [began, stands, own]
  · simp [same]

/-- The phases of other lookups are not. -/
theorem desk_setPhase_of_foreign
    (began : calendar.lookups[lookup]? = some term)
    (foreign : term.name ≠ name)
    (phase : LookupPhase) :
    (registry.setPhase lookup phase).desk calendar name = registry.desk calendar name := by
  simp only [desk, cell_setPhase, Desk.mk.injEq]
  refine ⟨by simp [setPhase], trivial, ?_, trivial, rfl⟩
  funext other
  by_cases same : other = lookup
  · subst same
    cases stands : registry.phase? other <;> simp [began, stands, foreign]
  · simp [same]

/-- The cell of a term of the name is seen at the desk. -/
theorem Housed.desk_setCell
    (housed : registry.Housed calendar)
    (made : calendar.cells[index]? = some term)
    (own : term.name = name)
    (cell : Cell) :
    (registry.setCell index cell).desk calendar name =
      (registry.desk calendar name).put term.forgotten cell.face := by
  obtain ⟨inside, -⟩ := List.getElem?_eq_some_iff.mp made
  have room : index < registry.cells.length := housed.allotted ▸ inside
  simp only [desk, Desk.put, phase?_setCell, Desk.mk.injEq]
  refine ⟨rfl, trivial, trivial, ?_, rfl⟩
  funext forgotten
  have position := housed.idxOf_eq_iff made ⟨name, forgotten⟩
  subst own
  by_cases same : forgotten = term.forgotten
  · subst same
    simp [position.mpr rfl, room]
  · have apart : ¬ calendar.cells.idxOf ⟨term.name, forgotten⟩ = index :=
      fun found => same (congrArg Term.forgotten (position.mp found))
    simp [apart, same]

/-- The cells of other terms are not. -/
theorem Housed.desk_setCell_of_foreign
    (housed : registry.Housed calendar)
    (made : calendar.cells[index]? = some term)
    (foreign : term.name ≠ name)
    (cell : Cell) :
    (registry.setCell index cell).desk calendar name = registry.desk calendar name := by
  simp only [desk, phase?_setCell, Desk.mk.injEq]
  refine ⟨rfl, trivial, trivial, ?_, rfl⟩
  funext forgotten
  have position := housed.idxOf_eq_iff made ⟨name, forgotten⟩
  have apart : ¬ calendar.cells.idxOf ⟨name, forgotten⟩ = index :=
    fun found => foreign (congrArg Term.name (position.mp found)).symm
  simp [apart]

/-- The phase of a lookup of the name is seen together with the cell of its term. -/
theorem Housed.desk_setCell_setPhase
    (housed : registry.Housed calendar)
    (began : calendar.lookups[lookup]? = some term)
    (made : calendar.cells[index]? = some term)
    (own : term.name = name)
    {earlier : LookupPhase}
    (stands : registry.phase? lookup = some earlier)
    (cell : Cell)
    (phase : LookupPhase) :
    ((registry.setCell index cell).setPhase lookup phase).desk calendar name =
      ((registry.desk calendar name).put term.forgotten cell.face).place lookup term.forgotten
        phase.stage := by
  have kept : (registry.setCell index cell).phase? lookup = some earlier := stands
  rw [desk_setPhase began own kept, housed.desk_setCell made own]

theorem desk_call_eq (index : Nat) :
    (registry.call lookup index).desk calendar name =
      { (registry.setPhase lookup (.resolving index)).desk calendar name with
        calls := (lookup :: registry.calls).filter (calendar.isOf name) } := rfl

/-- A call of a lookup of the name is noted at the desk. -/
theorem desk_call
    (began : calendar.lookups[lookup]? = some term)
    (own : term.name = name)
    {earlier : LookupPhase}
    (stands : registry.phase? lookup = some earlier)
    (index : Nat) :
    (registry.call lookup index).desk calendar name =
      (registry.desk calendar name).call lookup term.forgotten := by
  have noted : calendar.isOf name lookup = true := by simp [Calendar.isOf, began, own]
  rw [desk_call_eq, desk_setPhase began own stands, List.filter_cons, if_pos noted]
  rfl

/-- The calls of other lookups are not. -/
theorem desk_call_of_foreign
    (began : calendar.lookups[lookup]? = some term)
    (foreign : term.name ≠ name)
    (index : Nat) :
    (registry.call lookup index).desk calendar name = registry.desk calendar name := by
  have unnoted : ¬ calendar.isOf name lookup = true := by simp [Calendar.isOf, began, foreign]
  rw [desk_call_eq, desk_setPhase_of_foreign began foreign, List.filter_cons, if_neg unnoted]
  rfl

end Views

section Steps

variable {registry : Registry} {calendar : Calendar}

/-- A lookup of the name goes on at the desk as it does in the registry. -/
theorem InOrder.desk_advance
    (order : registry.InOrder calendar)
    {name : String}
    {lookup : Nat}
    {term : Term}
    (began : calendar.lookups[lookup]? = some term)
    (own : term.name = name)
    {phase : LookupPhase}
    (stands : registry.phase? lookup = some phase) :
    (registry.advance lookup).desk calendar name =
      (registry.desk calendar name).advance lookup := by
  have seen {index : Nat} (placed : phase.cell? = some index) :
      calendar.cells[index]? = some term ∧
        (registry.desk calendar name).face term.forgotten = (registry.cell index).face := by
    have made := (order.housed.placed lookup phase index stands placed).trans began
    exact ⟨made, order.housed.face_desk made own⟩
  have move := registry.move_advance lookup
  generalize registry.advance lookup = after at move ⊢
  rw [Desk.advance, stage_desk began own stands]
  cases move with
  | takes lookup index identity stood filled =>
      rw [desk_setPhase began own stands]
      rcases stood with stood | stood <;>
      · obtain rfl := Option.some.inj (stands.symm.trans stood)
        obtain ⟨-, face⟩ := seen rfl
        simp only [LookupPhase.stage, face, Cell.face, filled]
        rfl
  | opens lookup index stood empty free =>
      obtain rfl := Option.some.inj (stands.symm.trans stood)
      obtain ⟨made, face⟩ := seen rfl
      have kept (cell : Cell) :
          (registry.setCell index cell).phase? lookup = some (.arrived index) := stood
      rw [desk_call began own (kept _), order.housed.desk_setCell made own]
      simp only [LookupPhase.stage, face, Cell.face, empty, free]
      rfl
  | queues lookup index holder stood empty busy =>
      obtain rfl := Option.some.inj (stands.symm.trans stood)
      obtain ⟨made, face⟩ := seen rfl
      rw [order.housed.desk_setCell_setPhase began made own stood]
      simp only [LookupPhase.stage, face, Cell.face, empty, busy]
      rfl
  | calls lookup index stood =>
      obtain rfl := Option.some.inj (stands.symm.trans stood)
      rw [desk_call began own stood]
      rfl
  | waits lookup begun uncalled unfilled =>
      cases phase with
      | arrived index => exact absurd stands (begun index)
      | waiting index =>
          obtain ⟨-, face⟩ := seen rfl
          simp only [LookupPhase.stage, face, Cell.face, unfilled index stands]
          rfl
      | chosen index => exact absurd stands (uncalled index)
      | resolving index => rfl
      | finished result => rfl

/-- The turn passes on to a lookup of the same term. -/
theorem InOrder.term_of_next
    (order : registry.InOrder calendar)
    {lookup next index : Nat}
    {queue : List Nat}
    (stands : registry.phase? lookup = some (.resolving index))
    (followed : (registry.cell index).queue = next :: queue) :
    calendar.lookups[next]? = calendar.lookups[lookup]? := by
  have waited := order.manned.waits_of_followed followed
  have here := order.housed.placed lookup _ index stands rfl
  have there := order.housed.placed next _ index waited rfl
  exact there.symm.trans here

/-- The call of a lookup of the name is answered at the desk as it is in the registry. -/
theorem InOrder.desk_settle
    (order : registry.InOrder calendar)
    {name : String}
    {lookup : Nat}
    {term : Term}
    (began : calendar.lookups[lookup]? = some term)
    (own : term.name = name)
    {phase : LookupPhase}
    (stands : registry.phase? lookup = some phase)
    (answer : Except String Resolution) :
    (registry.settle lookup answer).desk calendar name =
      (registry.desk calendar name).settle name lookup answer := by
  have called {asked : String} {index : Nat}
      (found : registry.lookups[lookup]? = some ⟨asked, .resolving index⟩) :
      asked = name ∧ phase = .resolving index ∧
        calendar.cells[index]? = some term ∧
        (registry.desk calendar name).face term.forgotten = (registry.cell index).face := by
    obtain ⟨forgotten, same⟩ := order.housed.exists_term found
    obtain rfl := Option.some.inj (began.symm.trans same)
    obtain rfl := Option.some.inj (stands.symm.trans (phase?_of_lookup found))
    have made := (order.housed.placed lookup _ index stands rfl).trans began
    exact ⟨own, rfl, made, order.housed.face_desk made own⟩
  have move := registry.move_settle lookup answer
  generalize registry.settle lookup answer = after at move ⊢
  rw [Desk.settle, stage_desk began own stands]
  cases move with
  | fills lookup index asked resolution found =>
      obtain ⟨rfl, rfl, made, -⟩ := called found
      change ((registry.setCell index _).setPhase lookup _).desk calendar asked = _
      rw [order.housed.desk_setCell_setPhase began made own stands]
      rfl
  | fails lookup index asked reason found alone =>
      obtain ⟨rfl, rfl, made, face⟩ := called found
      change ((registry.setCell index _).setPhase lookup _).desk calendar asked = _
      rw [order.housed.desk_setCell_setPhase began made own stands]
      simp only [LookupPhase.stage, face, Cell.face, alone]
      rfl
  | passes lookup index asked reason next queue found followed =>
      obtain ⟨rfl, rfl, made, face⟩ := called found
      have waited := order.manned.waits_of_followed followed
      have nextBegan := (order.term_of_next stands followed).trans began
      have apart : next ≠ lookup := by
        rintro rfl
        rw [stands] at waited
        cases waited
      have waits (cell : Cell) (phase : LookupPhase) :
          ((registry.setCell index cell).setPhase lookup phase).phase? next =
            some (.waiting index) := by
        simp [apart, waited]
      change
        (((registry.setCell index _).setPhase lookup _).setPhase next _).desk calendar asked = _
      rw [desk_setPhase nextBegan own (waits _ _),
        order.housed.desk_setCell_setPhase began made own stands]
      simp only [LookupPhase.stage, face, Cell.face, followed]
      rfl
  | ignores lookup answer idle =>
      cases phase with
      | resolving index => exact absurd stands (idle index)
      | _ => rfl

section Foreign

variable {name : String} {lookup : Nat} {term : Term}

/-- A lookup that stands in a cell of another name changes a cell that is not seen. -/
theorem InOrder.desk_setCell_of_foreign
    (order : registry.InOrder calendar)
    (began : calendar.lookups[lookup]? = some term)
    (foreign : term.name ≠ name)
    {index : Nat}
    {phase : LookupPhase}
    (stands : registry.phase? lookup = some phase)
    (placed : phase.cell? = some index)
    (cell : Cell) :
    (registry.setCell index cell).desk calendar name = registry.desk calendar name := by
  have made := (order.housed.placed lookup phase index stands placed).trans began
  exact order.housed.desk_setCell_of_foreign made foreign cell

/-- Where a lookup of another name goes is not seen at the desk. -/
theorem InOrder.desk_advance_of_foreign
    (order : registry.InOrder calendar)
    (began : calendar.lookups[lookup]? = some term)
    (foreign : term.name ≠ name) :
    (registry.advance lookup).desk calendar name = registry.desk calendar name := by
  have move := registry.move_advance lookup
  generalize registry.advance lookup = after at move ⊢
  cases move with
  | takes lookup index identity stands filled =>
      exact desk_setPhase_of_foreign began foreign _
  | opens lookup index stands empty free =>
      rw [desk_call_of_foreign began foreign,
        order.desk_setCell_of_foreign began foreign stands rfl]
  | queues lookup index holder stands empty busy =>
      rw [desk_setPhase_of_foreign began foreign,
        order.desk_setCell_of_foreign began foreign stands rfl]
  | calls lookup index stands => exact desk_call_of_foreign began foreign index
  | waits lookup begun uncalled unfilled => rfl

/-- What a lookup of another name is answered is not seen at the desk. -/
theorem InOrder.desk_settle_of_foreign
    (order : registry.InOrder calendar)
    (began : calendar.lookups[lookup]? = some term)
    (foreign : term.name ≠ name)
    (answer : Except String Resolution) :
    (registry.settle lookup answer).desk calendar name = registry.desk calendar name := by
  have move := registry.move_settle lookup answer
  generalize registry.settle lookup answer = after at move ⊢
  cases move with
  | fills lookup index asked resolution found =>
      change ((registry.setCell index _).setPhase lookup _).desk calendar name = _
      rw [desk_setPhase_of_foreign began foreign,
        order.desk_setCell_of_foreign began foreign (phase?_of_lookup found) rfl]
  | fails lookup index asked reason found alone =>
      change ((registry.setCell index _).setPhase lookup _).desk calendar name = _
      rw [desk_setPhase_of_foreign began foreign,
        order.desk_setCell_of_foreign began foreign (phase?_of_lookup found) rfl]
  | passes lookup index asked reason next queue found followed =>
      have stands := phase?_of_lookup found
      have nextBegan := (order.term_of_next stands followed).trans began
      change (((registry.setCell index _).setPhase lookup _).setPhase next _).desk calendar name = _
      rw [desk_setPhase_of_foreign nextBegan foreign, desk_setPhase_of_foreign began foreign,
        order.desk_setCell_of_foreign began foreign stands rfl]
  | ignores lookup answer idle => rfl

end Foreign

theorem Housed.cell_of_length_le
    (housed : registry.Housed calendar)
    {index : Nat}
    (beyond : calendar.cells.length ≤ index) :
    registry.cell index = {} := by
  rw [Registry.cell, List.getD_eq_getElem?_getD,
    List.getElem?_eq_none (housed.allotted ▸ beyond)]
  rfl

/-- A term that has no cell yet is seen as empty, and so is its new cell. -/
theorem Housed.cell_begin
    (housed : registry.Housed calendar)
    (other : String)
    (term : Term) :
    registry.cell ((calendar.step (.begin other)).cells.idxOf term) =
      registry.cell (calendar.cells.idxOf term) := by
  simp only [Calendar.step]
  split
  · rfl
  · rw [List.idxOf_append]
    split
    · rfl
    · rename_i absent
      have beyond := Nat.le_of_eq (List.idxOf_eq_length absent).symm
      rw [housed.cell_of_length_le (Nat.le_add_left _ _), housed.cell_of_length_le beyond]

/-- A lookup that begins is seen at the desk of its name only. -/
theorem InOrder.desk_begin
    (order : registry.InOrder calendar)
    (name other : String) :
    (registry.begin other).2.desk (calendar.step (.begin other)) name =
      (registry.desk calendar name).begin name other := by
  obtain ⟨index, lookups, cells, calls⟩ :
      ∃ index,
        (registry.begin other).2.lookups = registry.lookups ++ [⟨other, .arrived index⟩] ∧
          (∀ place, (registry.begin other).2.cell place = registry.cell place) ∧
          (registry.begin other).2.calls = registry.calls := by
    have move := registry.move_begin other
    generalize (registry.begin other).2 = after at move ⊢
    cases move with
    | enters other index known => exact ⟨index, rfl, fun _ => rfl, rfl⟩
    | founds other unknown => exact ⟨_, rfl, registry.cell_found other, rfl⟩
  generalize (registry.begin other).2 = after at lookups cells calls ⊢
  have lengths := order.housed.length_lookups
  have begun : after.lookups.length = registry.lookups.length + 1 := by simp [lookups]
  have stages :
      (after.desk (calendar.step (.begin other)) name).stage =
        ((registry.desk calendar name).begin name other).stage := by
    funext lookup
    have phase : after.phase? lookup = (registry.enter ⟨other, .arrived index⟩).phase? lookup := by
      rw [phase?, lookups]
      rfl
    have absent := registry.phase?_length
    simp only [desk, phase, phase?_enter, Desk.begin, Calendar.step, Calendar.current]
    by_cases last : lookup = registry.lookups.length
    · subst last
      by_cases own : other = name <;> simp [own, lengths, Desk.place, LookupPhase.stage]
    · have same :
          (calendar.lookups ++ [⟨other, calendar.forgotten other⟩])[lookup]? =
            calendar.lookups[lookup]? := by
        grind
      rw [same]
      by_cases own : other = name <;> simp [own, last, Desk.place]
  have faces :
      (after.desk (calendar.step (.begin other)) name).face =
        (registry.desk calendar name).face := by
    funext forgotten
    simp only [desk, cells, order.housed.cell_begin]
  have noted :
      (after.desk (calendar.step (.begin other)) name).calls =
        (registry.desk calendar name).calls := by
    simp only [desk, calls]
    refine List.filter_congr fun lookup called => ?_
    obtain ⟨term, began⟩ := order.noted lookup called
    rw [Calendar.isOf, Calendar.isOf, began, calendar.lookups_step _ began]
  refine Desk.ext ?_ ?_ stages ?_ ?_
  · rw [Desk.begin]
    split <;> exact begun
  · rw [Desk.begin]
    split <;> rfl
  · rw [faces, Desk.begin]
    split <;> rfl
  · rw [noted, Desk.begin]
    split <;> rfl

/-- A name that is forgotten is forgotten at its own desk. -/
theorem desk_invalidate
    (registry : Registry)
    (calendar : Calendar)
    (name other : String) :
    (registry.invalidate other).desk (calendar.step (.invalidate other)) name =
      (registry.desk calendar name).invalidate name other := by
  have only :
      (registry.invalidate other).desk (calendar.step (.invalidate other)) name =
        { registry.desk calendar name with
          forgotten :=
            if name = other then calendar.forgotten name + 1 else calendar.forgotten name } := rfl
  rw [only, Desk.invalidate]
  by_cases same : other = name
  · rw [if_pos same, if_pos same.symm]
    rfl
  · rw [if_neg same, if_neg (Ne.symm same)]
    rfl

/-- A step of the registry is a step of every desk. -/
theorem InOrder.desk_step
    (order : registry.InOrder calendar)
    (name : String)
    (step : RegistryStep) :
    (registry.step step).desk (calendar.step step) name =
      (registry.desk calendar name).step name step := by
  have still {lookup : Nat} (absent : registry.phase? lookup = none)
      (answer : Except String Resolution) :
      registry.advance lookup = registry ∧ registry.settle lookup answer = registry := by
    refine ⟨by rw [advance, absent], ?_⟩
    rw [phase?] at absent
    rw [settle, Option.map_eq_none_iff.mp absent]
  cases step with
  | begin other => exact order.desk_begin name other
  | invalidate other => exact desk_invalidate registry calendar name other
  | advance lookup =>
      change (registry.advance lookup).desk calendar name = _
      cases stands : registry.phase? lookup with
      | none =>
          rw [(still stands (.error "")).1, Desk.step, Desk.advance, stage_desk_of_absent stands]
      | some phase =>
          obtain ⟨term, -, began, -⟩ := order.housed.exists_cell stands
          by_cases own : term.name = name
          · exact order.desk_advance began own stands
          · rw [order.desk_advance_of_foreign began own, Desk.step, Desk.advance,
              stage_desk_of_foreign began own]
  | settle lookup answer =>
      change (registry.settle lookup answer).desk calendar name = _
      cases stands : registry.phase? lookup with
      | none =>
          rw [(still stands answer).2, Desk.step, Desk.settle, stage_desk_of_absent stands]
      | some phase =>
          obtain ⟨term, -, began, -⟩ := order.housed.exists_cell stands
          by_cases own : term.name = name
          · exact order.desk_settle began own stands answer
          · rw [order.desk_settle_of_foreign began own, Desk.step, Desk.settle,
              stage_desk_of_foreign began own]

end Steps

/-- The desk of a name goes through the steps of a run by itself. -/
theorem desk_concat
    (steps : List RegistryStep)
    (step : RegistryStep)
    (name : String) :
    (run {} (steps ++ [step])).desk (.of (steps ++ [step])) name =
      ((run {} steps).desk (.of steps) name).step name step := by
  rw [run_concat, Calendar.of_concat]
  exact (inOrder_run steps).desk_step name step

/--
Whether a step is about other names than the given one. That a lookup begins never is, because
lookups are known by their number.
-/
def Foreign (steps : List RegistryStep) (name : String) : RegistryStep → Prop
  | .begin _ => False
  | .advance lookup | .settle lookup _ =>
      ∀ term, (Calendar.of steps).lookups[lookup]? = some term → term.name ≠ name
  | .invalidate other => other ≠ name

/-- Runs that are the same but for steps about other names than the given one. -/
inductive SameFor (name : String) : List RegistryStep → List RegistryStep → Prop where
  | nil : SameFor name [] []
  | both {first second : List RegistryStep} (same : SameFor name first second)
      (step : RegistryStep) :
      SameFor name (first ++ [step]) (second ++ [step])
  | left {first second : List RegistryStep} (same : SameFor name first second)
      (step : RegistryStep) (foreign : Foreign first name step) :
      SameFor name (first ++ [step]) second
  | right {first second : List RegistryStep} (same : SameFor name first second)
      (step : RegistryStep) (foreign : Foreign second name step) :
      SameFor name first (second ++ [step])

/-- A step about other names leaves the desk of a name alone. -/
theorem desk_concat_of_foreign
    {steps : List RegistryStep}
    {name : String}
    {step : RegistryStep}
    (foreign : Foreign steps name step) :
    (run {} (steps ++ [step])).desk (.of (steps ++ [step])) name =
      (run {} steps).desk (.of steps) name := by
  have order := inOrder_run steps
  rw [desk_concat]
  have unseen {lookup : Nat}
      (other : ∀ term, (Calendar.of steps).lookups[lookup]? = some term → term.name ≠ name) :
      ((run {} steps).desk (.of steps) name).stage lookup = none := by
    cases stands : (run {} steps).phase? lookup with
    | none => exact stage_desk_of_absent stands
    | some phase =>
        obtain ⟨term, -, began, -⟩ := order.housed.exists_cell stands
        exact stage_desk_of_foreign began (other term began)
  cases step with
  | begin other => cases foreign
  | advance lookup => rw [Desk.step, Desk.advance, unseen foreign]
  | settle lookup answer => rw [Desk.step, Desk.settle, unseen foreign]
  | invalidate other => exact if_neg foreign

/-- Runs that differ in steps about other names leave the same at the desk of a name. -/
theorem SameFor.desk_eq
    {name : String}
    {first second : List RegistryStep}
    (same : SameFor name first second) :
    (run {} first).desk (.of first) name = (run {} second).desk (.of second) name := by
  induction same with
  | nil => rfl
  | both same step inductionHypothesis =>
      rw [desk_concat, desk_concat, inductionHypothesis]
  | left same step foreign inductionHypothesis =>
      rw [desk_concat_of_foreign foreign, inductionHypothesis]
  | right same step foreign inductionHypothesis =>
      rw [desk_concat_of_foreign foreign, inductionHypothesis]

/-- The contract or the error that a lookup has finished with. -/
def outcome? (registry : Registry) (lookup : Nat) : Option (Except GatewayError Contract) :=
  (registry.result? lookup).map (·.map Identity.contract)

/-- What is seen of a lookup at the desk is what has become of it. -/
theorem InOrder.exists_stage
    {registry : Registry}
    {calendar : Calendar}
    (order : registry.InOrder calendar)
    {name : String}
    {lookup : Nat}
    {term : Nat}
    {stage : Stage}
    (seen : (registry.desk calendar name).stage lookup = some (term, stage)) :
    registry.outcome? lookup = stage.result? ∧ registry.isResolving lookup = stage.isResolving := by
  cases stands : registry.phase? lookup with
  | none =>
      rw [stage_desk_of_absent stands] at seen
      cases seen
  | some phase =>
      obtain ⟨own, index, began, -⟩ := order.housed.exists_cell stands
      by_cases foreign : own.name = name
      · rw [stage_desk began foreign stands] at seen
        cases seen
        cases phase <;>
          simp [outcome?, result?, isResolving, stands, LookupPhase.stage, Stage.result?,
            Stage.isResolving]
      · rw [stage_desk_of_foreign began foreign] at seen
        cases seen

theorem Housed.isCached_eq
    {registry : Registry}
    {calendar : Calendar}
    (housed : registry.Housed calendar)
    (name : String) :
    registry.isCached name =
      ((registry.desk calendar name).face
        (registry.desk calendar name).forgotten).contract.isSome := by
  have present : (registry.desk calendar name).face (registry.desk calendar name).forgotten =
      (registry.cell (calendar.cells.idxOf (calendar.current name))).face := rfl
  rw [present, isCached]
  cases known : registry.names.lookup name with
  | some index =>
      have made := (housed.current name index).mp known
      rw [(housed.idxOf_eq_iff made _).mpr rfl]
      simp [Cell.face]
  | none =>
      have absent : calendar.current name ∉ calendar.cells := by
        intro member
        obtain ⟨index, made⟩ := List.getElem?_of_mem member
        rw [(housed.current name index).mpr made] at known
        cases known
      rw [List.idxOf_eq_length absent, housed.cell_of_length_le (Nat.le_refl _)]
      rfl

end Registry

end ContractGateway
