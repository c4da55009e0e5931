import ContractGateway.Proofs.Registry.Lookups
import ContractGateway.Registry.Joined

/-!
# Where the results of lookups come from

The steps of a run tell which calls were answered and what the registry was like then. An identity
was made by the answer to one call: it carries a number that no other answer gave. An error is what
the lookup's own call was answered with.
-/

namespace ContractGateway

namespace Registry

/-- All that holds of a registry and its calendar in a run. -/
structure InOrder (registry : Registry) (calendar : Calendar) : Prop where
  housed : registry.Housed calendar
  manned : registry.Manned
  shared : registry.Shared calendar
  /-- Who calls the resolver has begun before. -/
  noted : ∀ lookup ∈ registry.calls, ∃ term, calendar.lookups[lookup]? = some term

theorem inOrder_empty : ({} : Registry).InOrder {} where
  housed := by constructor <;> simp [phase?]
  manned := by constructor <;> simp [phase?, Registry.cell]
  shared := by simp [Shared, phase?]
  noted := by simp

theorem InOrder.step
    {registry : Registry}
    {calendar : Calendar}
    (order : registry.InOrder calendar)
    (step : RegistryStep) :
    (registry.step step).InOrder (calendar.step step) where
  housed := order.housed.step order.manned step
  manned := order.manned.step order.housed step
  shared := order.shared.step order.housed order.manned step
  noted := by
    have earlier (lookup : Nat) (called : lookup ∈ registry.calls) :
        ∃ term, (calendar.step step).lookups[lookup]? = some term := by
      obtain ⟨term, began⟩ := order.noted lookup called
      exact ⟨term, calendar.lookups_step step began⟩
    intro lookup called
    rcases order.manned.calls_step step with same | more
    · exact earlier lookup (same ▸ called)
    · obtain ⟨caller, phase, index, calls, stands, -⟩ := more
      rw [calls] at called
      rcases List.mem_cons.mp called with rfl | before
      · obtain ⟨term, -, began, -⟩ := order.housed.exists_cell stands
        exact ⟨term, calendar.lookups_step step began⟩
      · exact earlier lookup before

theorem inOrder_run (steps : List RegistryStep) : (run {} steps).InOrder (.of steps) := by
  induction steps using List.reverseRecOn with
  | nil => exact inOrder_empty
  | append_singleton steps last inductionHypothesis =>
      rw [run_concat, Calendar.of_concat]
      exact inductionHypothesis.step last

/-- Two lookups of one name that no forgetting of the name separates. -/
def Together (steps : List RegistryStep) (first second : Nat) : Prop :=
  ∃ term,
    (Calendar.of steps).lookups[first]? = some term ∧
      (Calendar.of steps).lookups[second]? = some term

theorem isResolving_iff
    (registry : Registry)
    (lookup : Nat) :
    registry.isResolving lookup = true ↔
      ∃ index, registry.phase? lookup = some (.resolving index) := by
  rw [isResolving]
  split <;> simp_all

theorem result?_eq_some_iff
    (registry : Registry)
    (lookup : Nat)
    (result : Except GatewayError Identity) :
    registry.result? lookup = some result ↔
      registry.phase? lookup = some (.finished result) := by
  rw [result?]
  split <;> simp_all

/-- The call that a lookup of a name has made is answered; `registry` is what the answer finds. -/
def Answered
    (steps : List RegistryStep)
    (lookup : Nat)
    (name : String)
    (answer : Except String Resolution)
    (registry : Registry) : Prop :=
  ∃ before after index,
    steps = before ++ .settle lookup answer :: after ∧
      registry = run {} before ∧
      registry.lookups[lookup]? = some ⟨name, .resolving index⟩

/-- An identity is made by the answer to the call of a lookup. -/
def Produced (steps : List RegistryStep) (caller : Nat) (identity : Identity) : Prop :=
  ∃ name resolution registry,
    Answered steps caller name (.ok resolution) registry ∧
      identity = registry.identityFor name resolution

/-- An error is what the call of a lookup was answered with. -/
def Refused (steps : List RegistryStep) (lookup : Nat) (error : GatewayError) : Prop :=
  ∃ name reason registry,
    Answered steps lookup name (.error reason) registry ∧ error = .unknownContract name reason

section Runs

variable {steps : List RegistryStep} {lookup : Nat}

theorem Answered.append
    {name : String}
    {answer : Except String Resolution}
    {registry : Registry}
    (answered : Answered steps lookup name answer registry)
    (later : List RegistryStep) :
    Answered (steps ++ later) lookup name answer registry := by
  obtain ⟨before, after, index, rfl, same, calls⟩ := answered
  exact ⟨before, after ++ later, index, by simp, same, calls⟩

theorem answered_last
    {name : String}
    {index : Nat}
    (calls : (run {} steps).lookups[lookup]? = some ⟨name, .resolving index⟩)
    (answer : Except String Resolution) :
    Answered (steps ++ [.settle lookup answer]) lookup name answer (run {} steps) :=
  ⟨steps, [], index, rfl, rfl, calls⟩

/-- A lookup that fails does so with what its own call was answered with. -/
theorem refused_of_failed
    {error : GatewayError}
    (failed : (run {} steps).phase? lookup = some (.finished (.error error))) :
    Refused steps lookup error := by
  induction steps using List.reverseRecOn with
  | nil => cases failed
  | append_singleton steps last inductionHypothesis =>
      rw [run_concat] at failed
      rcases (inOrder_run steps).manned.failed_step failed with before | settled
      · obtain ⟨name, reason, registry, answered, same⟩ := inductionHypothesis before
        exact ⟨name, reason, registry, answered.append [last], same⟩
      · obtain ⟨index, name, reason, rfl, calls, same⟩ := settled
        exact ⟨name, reason, _, answered_last calls (.error reason), same⟩

/-- What fills a cell was made by the answer to a call of the term of the cell. -/
theorem produced_of_filled
    {index : Nat}
    {identity : Identity}
    (filled : ((run {} steps).cell index).identity = some identity) :
    ∃ (caller : Nat) (term : Term),
      Produced steps caller identity ∧
        (Calendar.of steps).lookups[caller]? = some term ∧
        (Calendar.of steps).cells[index]? = some term := by
  induction steps using List.reverseRecOn with
  | nil => cases filled
  | append_singleton steps last inductionHypothesis =>
      rw [run_concat] at filled
      rw [Calendar.of_concat]
      rcases filled_step filled with before | settled
      · obtain ⟨caller, term, produced, began, made⟩ := inductionHypothesis before
        obtain ⟨name, resolution, registry, answered, same⟩ := produced
        exact
          ⟨caller, term, ⟨name, resolution, registry, answered.append [last], same⟩,
            Calendar.lookups_step _ last began, Calendar.cells_step _ last made⟩
      · obtain ⟨caller, name, resolution, rfl, calls, same⟩ := settled
        obtain ⟨term, began, made, -⟩ :=
          (inOrder_run steps).housed.exists_placed (phase?_of_lookup calls) rfl
        exact
          ⟨caller, term, ⟨name, resolution, _, answered_last calls (.ok resolution), same⟩,
            Calendar.lookups_step _ _ began, Calendar.cells_step _ _ made⟩

/-- An identity that a lookup gets was made by the answer to a call of its own term. -/
theorem exists_produced
    {identity : Identity}
    (found : (run {} steps).phase? lookup = some (.finished (.ok identity))) :
    ∃ caller, Together steps lookup caller ∧ Produced steps caller identity := by
  have order := inOrder_run steps
  obtain ⟨term, index, began, made⟩ := order.housed.exists_cell found
  have filled := order.shared lookup index identity found (made.trans began.symm)
  obtain ⟨caller, other, produced, calledIn, same⟩ := produced_of_filled filled
  obtain rfl := Option.some.inj (made.symm.trans same)
  exact ⟨caller, ⟨term, began, calledIn⟩, produced⟩

end Runs

section Numbers

/-- Numbers are given in order. -/
theorem nextSerial_step (registry : Registry) (step : RegistryStep) :
    registry.nextSerial ≤ (registry.step step).nextSerial := by
  have move := registry.move_step step
  generalize registry.step step = after at move
  cases move with
  | fills lookup index name resolution stands => exact Nat.le_succ _
  | _ => exact Nat.le_refl _

theorem nextSerial_run (registry : Registry) (steps : List RegistryStep) :
    registry.nextSerial ≤ (registry.run steps).nextSerial := by
  induction steps generalizing registry with
  | nil => exact Nat.le_refl _
  | cons step rest inductionHypothesis =>
      exact Nat.le_trans (registry.nextSerial_step step) (inductionHypothesis _)

/-- A call that is answered with a contract takes a number. -/
theorem nextSerial_settle
    {registry : Registry}
    {lookup index : Nat}
    {name : String}
    (calls : registry.lookups[lookup]? = some ⟨name, .resolving index⟩)
    (resolution : Resolution) :
    (registry.settle lookup (.ok resolution)).nextSerial = registry.nextSerial + 1 := by
  rw [settle, calls]
  rfl

/-- An answer comes before another one when the other's steps before it are more. -/
theorem serial_lt_of_length_lt
    {before after otherBefore otherAfter : List RegistryStep}
    {lookup other index : Nat}
    {name : String}
    {resolution : Resolution}
    {answer : Except String Resolution}
    (same :
      before ++ .settle lookup (.ok resolution) :: after =
        otherBefore ++ .settle other answer :: otherAfter)
    (calls : (run {} before).lookups[lookup]? = some ⟨name, .resolving index⟩)
    (earlier : before.length < otherBefore.length) :
    (run {} before).nextSerial < (run {} otherBefore).nextSerial := by
  have whole := congrArg (List.take otherBefore.length) same
  rw [List.take_left, List.take_append, List.take_of_length_le (Nat.le_of_lt earlier)] at whole
  obtain ⟨more, enough⟩ := Nat.exists_eq_add_of_lt earlier
  have rest : otherBefore.length - before.length = more + 1 := by omega
  rw [rest, List.take_succ_cons] at whole
  rw [← whole, run_append]
  have taken := nextSerial_settle calls resolution
  have grown :=
    nextSerial_run ((run {} before).settle lookup (.ok resolution)) (after.take more)
  change _ < (((run {} before).settle lookup (.ok resolution)).run (after.take more)).nextSerial
  omega

/-- An identity is made by the answer to one call only. -/
theorem Produced.caller_unique
    {steps : List RegistryStep}
    {caller other : Nat}
    {identity : Identity}
    (produced : Produced steps caller identity)
    (otherProduced : Produced steps other identity) :
    other = caller := by
  obtain ⟨name, resolution, _, ⟨before, after, index, rfl, rfl, calls⟩, rfl⟩ := produced
  obtain ⟨otherName, otherResolution, _, otherAnswered, made⟩ := otherProduced
  obtain ⟨otherBefore, otherAfter, otherIndex, same, rfl, otherCalls⟩ := otherAnswered
  have serials : (run {} before).nextSerial = (run {} otherBefore).nextSerial :=
    congrArg Identity.serial made
  rcases Nat.lt_trichotomy before.length otherBefore.length with less | equal | more
  · have grown := serial_lt_of_length_lt same calls less
    omega
  · obtain ⟨-, steps⟩ := List.append_inj same equal
    injection steps with step rest
    injection step with lookup answer
    exact lookup.symm
  · have grown := serial_lt_of_length_lt same.symm otherCalls more
    omega

end Numbers

end Registry

end ContractGateway
