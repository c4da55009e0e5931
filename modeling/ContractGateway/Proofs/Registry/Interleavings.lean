import ContractGateway.Proofs.Registry.Separation

/-!
# Lookups under any interleaving

However many lookups of whatever names run side by side, and in whatever order their steps, the
answers of the resolver and the forgetting of names happen, the lookups of one term share one
successful call: `Registry.interleaved`.
-/

namespace ContractGateway

namespace Registry

/-- A lookup that begins is the first one not begun before. -/
theorem lookups_begin
    (before after : List RegistryStep)
    (name : String) :
    (Calendar.of (before ++ .begin name :: after)).lookups[(run {} before).lookups.length]? =
      some ((Calendar.of before).current name) := by
  rw [(inOrder_run before).housed.length_lookups, Calendar.of_append, List.foldl_cons]
  exact Calendar.lookups_foldl _ after List.getElem?_concat_length

/-- Lookups belong together when they have one name and nothing between them forgets it. -/
theorem together_iff
    (before between after : List RegistryStep)
    (name other : String) :
    Together (before ++ .begin name :: (between ++ .begin other :: after))
        (run {} before).lookups.length (run {} (before ++ .begin name :: between)).lookups.length ↔
      name = other ∧ .invalidate name ∉ between := by
  have first := lookups_begin before (between ++ .begin other :: after) name
  have second := lookups_begin (before ++ .begin name :: between) after other
  rw [List.append_assoc, List.cons_append] at second
  have terms := Calendar.current_append_iff before between name
  rw [Together, first, second]
  constructor
  · rintro ⟨term, ⟨⟩, same⟩
    have names := congrArg Term.name (Option.some.inj same)
    obtain rfl : other = name := names
    exact ⟨rfl, terms.mp (Option.some.inj same)⟩
  · rintro ⟨rfl, kept⟩
    exact ⟨_, rfl, congrArg some (terms.mpr kept)⟩

section Runs

variable {steps : List RegistryStep}

/-- Lookups of one term that both have a call in flight are one. -/
theorem eq_of_isResolving
    {first second : Nat}
    (together : Together steps first second)
    (calls : (run {} steps).isResolving first = true)
    (others : (run {} steps).isResolving second = true) :
    first = second := by
  have order := inOrder_run steps
  obtain ⟨index, here⟩ := (isResolving_iff _ first).mp calls
  obtain ⟨other, there⟩ := (isResolving_iff _ second).mp others
  obtain ⟨term, began, beganOther⟩ := together
  have made := (order.housed.placed first _ index here rfl).trans began
  have madeOther := (order.housed.placed second _ other there rfl).trans beganOther
  obtain rfl := order.housed.cell_unique made madeOther
  exact order.manned.eq_of_holds (.inr there) first (.inr here)

/-- Lookups of one term that succeed have one identity. -/
theorem identity_unique
    {first second : Nat}
    {identity other : Identity}
    (together : Together steps first second)
    (found : (run {} steps).result? first = some (.ok identity))
    (otherFound : (run {} steps).result? second = some (.ok other)) :
    identity = other := by
  have order := inOrder_run steps
  have here := (result?_eq_some_iff _ first _).mp found
  have there := (result?_eq_some_iff _ second _).mp otherFound
  obtain ⟨term, index, began, made⟩ := order.housed.exists_cell here
  obtain ⟨same, beganSame, beganOther⟩ := together
  obtain rfl := Option.some.inj (began.symm.trans beganSame)
  have filled := order.shared first index identity here (made.trans began.symm)
  have otherFilled := order.shared second index other there (made.trans beganOther.symm)
  exact Option.some.inj (filled.symm.trans otherFilled)

/-- A lookup that has finished has finished for good. -/
theorem finished_run
    {lookup : Nat}
    {result : Except GatewayError Identity}
    (done : (run {} steps).phase? lookup = some (.finished result))
    (later : List RegistryStep) :
    (run {} (steps ++ later)).phase? lookup = some (.finished result) := by
  induction later using List.reverseRecOn with
  | nil => simpa using done
  | append_singleton later last inductionHypothesis =>
      rw [← List.append_assoc, run_concat]
      exact (inOrder_run (steps ++ later)).manned.finished_step inductionHypothesis last

/-- After a lookup has succeeded, none of its term begins to call the resolver. -/
theorem calls_after_success (steps later : List RegistryStep) :
    ∃ newer,
      (run {} (steps ++ later)).calls = newer ++ (run {} steps).calls ∧
        ∀ first second identity,
          (run {} steps).result? first = some (.ok identity) →
            second ∈ newer → ¬ Together (steps ++ later) first second := by
  induction later using List.reverseRecOn with
  | nil => exact ⟨[], by simp, by simp⟩
  | append_singleton later last inductionHypothesis =>
      obtain ⟨newer, calls, apart⟩ := inductionHypothesis
      have order := inOrder_run (steps ++ later)
      rw [← List.append_assoc, run_concat]
      -- A lookup that has begun keeps its term, so what is together now was together before.
      have kept {first second : Nat} {term : Term}
          (began : (Calendar.of (steps ++ later)).lookups[second]? = some term)
          {identity : Identity}
          (found : (run {} steps).result? first = some (.ok identity))
          (together : Together (steps ++ later ++ [last]) first second) :
          Together (steps ++ later) first second := by
        have done := finished_run ((result?_eq_some_iff _ first _).mp found) later
        obtain ⟨firstTerm, -, firstBegan, -⟩ := order.housed.exists_cell done
        obtain ⟨same, here, there⟩ := together
        rw [Calendar.of_concat] at here there
        rw [Calendar.lookups_step _ last firstBegan] at here
        rw [Calendar.lookups_step _ last began] at there
        exact ⟨same, firstBegan.trans here, began.trans there⟩
      have before {first second : Nat} {identity : Identity}
          (found : (run {} steps).result? first = some (.ok identity))
          (called : second ∈ newer) :
          ¬ Together (steps ++ later ++ [last]) first second := by
        have noted : second ∈ (run {} (steps ++ later)).calls := by
          rw [calls]
          exact List.mem_append_left _ called
        obtain ⟨term, began⟩ := order.noted second noted
        exact fun together => apart first second identity found called (kept began found together)
      rcases order.manned.calls_step last with same | more
      · exact ⟨newer, same.trans calls, fun first second identity found called =>
          before found called⟩
      · obtain ⟨caller, phase, index, added, stands, placed, empty⟩ := more
        refine ⟨caller :: newer, by rw [added, calls]; rfl, ?_⟩
        intro first second identity found called
        rcases List.mem_cons.mp called with rfl | earlier
        · intro together
          obtain ⟨term, began, made, -⟩ := order.housed.exists_placed stands placed
          obtain ⟨same, firstBegan, secondBegan⟩ := kept began found together
          obtain rfl := Option.some.inj (began.symm.trans secondBegan)
          have done := finished_run ((result?_eq_some_iff _ first _).mp found) later
          rw [order.shared first index identity done (made.trans firstBegan.symm)] at empty
          cases empty
        · exact before found earlier

/-- An identity that is found after its name was forgotten was not asked for before. -/
theorem caller_fresh
    {before after : List RegistryStep}
    {name : String}
    (forgets : steps = before ++ .invalidate name :: after)
    {lookup caller : Nat}
    {identity : Identity}
    (own : (Calendar.of steps).isOf name lookup = true)
    (later : (run {} before).lookups.length ≤ lookup)
    (found : (run {} steps).result? lookup = some (.ok identity))
    (produced : Produced steps caller identity) :
    caller ∉ (run {} before).calls := by
  intro called
  have order := inOrder_run before
  obtain ⟨other, ⟨term, began, calledIn⟩, alsoProduced⟩ :=
    exists_produced ((result?_eq_some_iff _ lookup _).mp found)
  obtain rfl := alsoProduced.caller_unique produced
  obtain ⟨earlier, beganBefore⟩ := order.noted caller called
  obtain ⟨same, beganSame, named⟩ := (Calendar.isOf_iff _ name lookup).mp own
  obtain rfl := Option.some.inj (began.symm.trans beganSame)
  rw [forgets, Calendar.of_append] at began calledIn
  obtain rfl := Option.some.inj ((Calendar.lookups_foldl _ _ beganBefore).symm.trans calledIn)
  -- The term is one of those before the name was forgotten, so the lookup is too late for it.
  have bygone := order.housed.bygone earlier
    (order.housed.housed earlier (List.mem_of_getElem? beganBefore))
  rw [order.housed.length_lookups] at later
  have present :=
    ((Calendar.of before).step (.invalidate name)).forgotten_le_of_begun_later after began later
  have next :
      ((Calendar.of before).step (.invalidate name)).forgotten earlier.name =
        (Calendar.of before).forgotten earlier.name + 1 :=
    if_pos named
  omega

/-- A lookup of a name comes to the same in runs that differ in steps about other names. -/
theorem SameFor.lookup_eq
    {name : String}
    {others : List RegistryStep}
    (same : SameFor name steps others)
    {lookup : Nat}
    (own : (Calendar.of steps).isOf name lookup = true) :
    (run {} others).outcome? lookup = (run {} steps).outcome? lookup ∧
      (run {} others).isResolving lookup = (run {} steps).isResolving lookup := by
  have order := inOrder_run steps
  obtain ⟨term, began, named⟩ := (Calendar.isOf_iff _ name lookup).mp own
  obtain ⟨phase, stands⟩ := order.housed.exists_phase began
  have seen := stage_desk began named stands
  have desks := congrArg (Desk.stage · lookup) same.desk_eq
  obtain ⟨result, calls⟩ := order.exists_stage seen
  obtain ⟨otherResult, otherCalls⟩ := (inOrder_run others).exists_stage (desks.symm.trans seen)
  exact ⟨otherResult.trans result.symm, otherCalls.trans calls.symm⟩

end Runs

/--
What holds of the lookups of a run, in whatever order its steps happen. Lookups belong together when
they have one name and nothing between them forgets it.
-/
structure Interleaved (steps : List RegistryStep) : Prop where
  /-- The lookups of two names belong together exactly when this is so. -/
  grouped :
    ∀ before between after name other,
      steps = before ++ .begin name :: (between ++ .begin other :: after) →
        (Together steps (run {} before).lookups.length
            (run {} (before ++ .begin name :: between)).lookups.length ↔
          name = other ∧ .invalidate name ∉ between)
  /-- Of lookups that belong together, one at most has a resolver call in flight. -/
  alone :
    ∀ first second,
      Together steps first second →
        (run {} steps).isResolving first = true → (run {} steps).isResolving second = true →
          first = second
  /-- Once one of them has succeeded, none begins to call the resolver any more. -/
  settled :
    ∀ later, ∃ newer,
      (run {} (steps ++ later)).calls = newer ++ (run {} steps).calls ∧
        ∀ first second identity,
          (run {} steps).result? first = some (.ok identity) →
            second ∈ newer → ¬ Together (steps ++ later) first second
  /-- Those that succeed get one identity. -/
  shared :
    ∀ first second identity other,
      Together steps first second →
        (run {} steps).result? first = some (.ok identity) →
          (run {} steps).result? second = some (.ok other) →
            identity = other
  /-- It was made by the answer to a call of one of them. -/
  produced :
    ∀ lookup identity,
      (run {} steps).result? lookup = some (.ok identity) →
        ∃ caller, Together steps lookup caller ∧ Produced steps caller identity
  /-- One that fails does so with the error that its own call was answered with. -/
  refused :
    ∀ lookup error,
      (run {} steps).result? lookup = some (.error error) → Refused steps lookup error
  /-- One that begins after its name was forgotten gets nothing that was asked for before. -/
  fresh :
    ∀ before after name,
      steps = before ++ .invalidate name :: after →
        ∀ lookup identity caller,
          (Calendar.of steps).isOf name lookup = true →
            (run {} before).lookups.length ≤ lookup →
              (run {} steps).result? lookup = some (.ok identity) →
                Produced steps caller identity → caller ∉ (run {} before).calls
  /-- Lookups of one name come to the same whatever is done about other names. -/
  separate :
    ∀ name others,
      SameFor name steps others →
        (∀ lookup,
            (Calendar.of steps).isOf name lookup = true →
              (run {} others).outcome? lookup = (run {} steps).outcome? lookup ∧
                (run {} others).isResolving lookup = (run {} steps).isResolving lookup) ∧
          (run {} others).isCached name = (run {} steps).isCached name ∧
          (run {} others).calls.filter ((Calendar.of others).isOf name) =
            (run {} steps).calls.filter ((Calendar.of steps).isOf name)

/-- Lookups share one successful call, whatever the interleaving. -/
theorem interleaved (steps : List RegistryStep) : Interleaved steps where
  grouped before between after name other split := by
    rw [split]
    exact together_iff before between after name other
  alone _ _ together calls others := eq_of_isResolving together calls others
  settled later := calls_after_success steps later
  shared _ _ _ _ together found otherFound := identity_unique together found otherFound
  produced lookup _ found := exists_produced ((result?_eq_some_iff _ lookup _).mp found)
  refused lookup _ failed := refused_of_failed ((result?_eq_some_iff _ lookup _).mp failed)
  fresh _ _ _ forgets _ _ _ own later found produced :=
    caller_fresh forgets own later found produced
  separate name others same := by
    refine ⟨fun lookup own => same.lookup_eq own, ?_, (congrArg Desk.calls same.desk_eq).symm⟩
    rw [(inOrder_run others).housed.isCached_eq, (inOrder_run steps).housed.isCached_eq,
      same.desk_eq]

/--
The first call fails, the second lookup calls for itself and for the one behind it, and a later one
does not call any more.
-/
theorem interleaved_turn :
    let steps : List RegistryStep :=
      [.begin "vault", .begin "vault", .begin "vault", .advance 0, .advance 1, .advance 2,
        .settle 0 (.error "offline"), .advance 1, .settle 1 (.ok ⟨0xAA, []⟩), .advance 2]
    let later : List RegistryStep := [.begin "vault", .advance 3]
    let identity : Identity := ⟨0, ⟨"vault", 0xAA, []⟩⟩
    (run {} steps).calls = [1, 0] ∧
      (run {} steps).result? 1 = some (.ok identity) ∧
      (run {} steps).result? 2 = some (.ok identity) ∧
      Refused steps 0 (.unknownContract "vault" "offline") ∧
      (∃ caller, Together steps 2 caller ∧ Produced steps caller identity) ∧
      (run {} (steps ++ later)).result? 3 = some (.ok identity) ∧
      ∃ newer, (run {} (steps ++ later)).calls = newer ++ [1, 0] ∧ 3 ∉ newer := by
  intro steps later identity
  obtain ⟨newer, calls, apart⟩ := (interleaved steps).settled later
  refine
    ⟨rfl, rfl, rfl, (interleaved steps).refused 0 _ rfl, (interleaved steps).produced 2 _ rfl, rfl,
      newer, calls, fun calling => ?_⟩
  exact apart 1 3 identity rfl calling ⟨⟨"vault", 0⟩, rfl, rfl⟩

end Registry

end ContractGateway
