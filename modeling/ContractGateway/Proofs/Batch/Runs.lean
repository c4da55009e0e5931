import ContractGateway.Proofs.Batch.Keeping
import ContractGateway.Proofs.Batch.OneByOne

/-!
# Batches, slots and results over whole runs

`Reads.run_disciplined` says what the record of a run tells of everything that can be done next:
which batches refuse, where a request is appended, whose value a slot yields, and which values are
gone.
-/

namespace ContractGateway.Reads

/-- What the record of a run says about the state that the run has come to. -/
structure Disciplined
    {σ : Type}
    (ledger : Ledger σ)
    (parsers : List Revert.ErrorParser)
    (events : List Event)
    (state : State σ) : Prop where
  /-- Every slot and all results are on record. -/
  recorded :
    state.slots.length = (issued events).length ∧
      state.results.length = (delivered events).length
  /-- From its execution on a batch is closed, and whatever is done with it changes nothing. -/
  closed :
    ∀ number ∈ executed events,
      (∃ batch, state.batches[number]? = some batch ∧ batch.closed = true) ∧
        ∀ operation : Operation,
          operation.batch? = some number →
          state.perform ledger parsers operation = (.refused .batchClosed, state)
  /-- Until then a request is appended as the last one, unless it cannot be had. -/
  appends :
    ∀ (number : Nat) (batch : Batch) (operation : Operation) (asked : Except GatewayError Request),
      state.batches[number]? = some batch →
      number ∉ executed events →
      operation.asks? = some (number, asked) →
      state.perform ledger parsers operation =
        match asked with
        | .error error => (.refused error, state)
        | .ok request =>
            (.slot ⟨request.type, ⟨batch.id, batch.requests.length⟩⟩,
              state.appended number batch request)
  /-- A batch gives results at most once. -/
  once : ((delivered events).map (·.1)).Nodup
  /-- The results of another batch have nothing for a slot. -/
  foreign :
    ∀ (slot place number source : Nat) (request : Request) (exchanges : List Exchange),
      (issued events)[slot]? = some (number, request) →
      (delivered events)[place]? = some (source, exchanges) →
      number ≠ source →
      state.perform ledger parsers (.get slot place) = (.datum none, state) ∧
        state.perform ledger parsers (.take slot place) = (.datum none, state)
  /-- The results of its own batch have the value of its own request until it is taken. -/
  own :
    ∀ (slot place number : Nat) (request : Request) (exchanges : List Exchange),
      (issued events)[slot]? = some (number, request) →
      (delivered events)[place]? = some (number, exchanges) →
      ∃ datum,
        request.Delivered exchanges datum ∧
          state.perform ledger parsers (.get slot place) =
            (.datum (if (slot, place) ∈ taken events then none else some datum), state) ∧
          (state.perform ledger parsers (.take slot place)).1 =
            .datum (if (slot, place) ∈ taken events then none else some datum)
  /-- What is taken is gone. -/
  gone :
    ∀ slot place : Nat,
      slot < state.slots.length →
      place < state.results.length →
      let next := (state.perform ledger parsers (.take slot place)).2
      (next.perform ledger parsers (.get slot place)).1 = .datum none ∧
        (next.perform ledger parsers (.take slot place)).1 = .datum none
  /-- Nothing else is. -/
  apart :
    ∀ slot place other others : Nat,
      (other, others) ≠ (slot, place) →
      let next := (state.perform ledger parsers (.take slot place)).2
      (next.perform ledger parsers (.get other others)).1 =
        (state.perform ledger parsers (.get other others)).1

namespace Kept

variable {σ : Type} (ledger : Ledger σ) (parsers : List Revert.ErrorParser)
  {first : Nat} {events : List Event} {state : State σ}

theorem perform_of_executed
    (kept : Kept first events state)
    {number : Nat}
    (execution : number ∈ executed events) :
    (∃ batch, state.batches[number]? = some batch ∧ batch.closed = true) ∧
      ∀ operation : Operation,
        operation.batch? = some number →
        state.perform ledger parsers operation = (.refused .batchClosed, state) := by
  have named := List.getElem?_eq_getElem (kept.batches.executed number execution)
  have closed := (kept.batches.each number _ named).closed_iff.mpr execution
  refine ⟨⟨_, named, closed⟩, fun operation acts => ?_⟩
  cases operation with
  | add place request =>
      cases acts
      rw [perform_of_asks? rfl named, if_pos closed]
  | enqueue place type field =>
      cases acts
      rw [perform_of_asks? rfl named, if_pos closed]
  | execute place maxCalls =>
      cases acts
      exact perform_execute_of_closed named closed maxCalls
  | _ => cases acts

/-- A slot and results on record are held, and what the results hold is known. -/
theorem exists_held
    (kept : Kept first events state)
    {slot place number source : Nat}
    {request : Request}
    {exchanges : List Exchange}
    (issue : (issued events)[slot]? = some (number, request))
    (delivery : (delivered events)[place]? = some (source, exchanges)) :
    ∃ found,
      state.slots[slot]? =
          some ⟨request.type, ⟨first + number, rank (issued events) number slot⟩⟩ ∧
        state.results[place]? = some found ∧
        found.batch = first + source ∧
        Holds (issued events) (taken events) exchanges source place found.values := by
  have inside := (List.getElem?_eq_some_iff.mp delivery).1
  rw [← kept.results.length_eq] at inside
  have named := List.getElem?_eq_getElem inside
  exact ⟨_, kept.slots.each slot number request issue, named,
    kept.results.each place source exchanges _ delivery named⟩

theorem perform_of_foreign
    (kept : Kept first events state)
    {slot place number source : Nat}
    {request : Request}
    {exchanges : List Exchange}
    (issue : (issued events)[slot]? = some (number, request))
    (delivery : (delivered events)[place]? = some (source, exchanges))
    (foreign : number ≠ source) :
    state.perform ledger parsers (.get slot place) = (.datum none, state) ∧
      state.perform ledger parsers (.take slot place) = (.datum none, state) := by
  obtain ⟨found, held, named, same, -⟩ := kept.exists_held issue delivery
  have strange : first + number ≠ found.batch := by omega
  rw [perform_get ledger parsers held named, perform_take ledger parsers held named,
    datum_of_foreign strange, Results.take, if_neg strange, set_getElem?_self named]
  exact ⟨rfl, rfl⟩

theorem perform_of_own
    (kept : Kept first events state)
    {slot place number : Nat}
    {request : Request}
    {exchanges : List Exchange}
    (issue : (issued events)[slot]? = some (number, request))
    (delivery : (delivered events)[place]? = some (number, exchanges)) :
    ∃ datum,
      request.Delivered exchanges datum ∧
        state.perform ledger parsers (.get slot place) =
          (.datum (if (slot, place) ∈ taken events then none else some datum), state) ∧
        (state.perform ledger parsers (.take slot place)).1 =
          .datum (if (slot, place) ∈ taken events then none else some datum) := by
  obtain ⟨found, held, named, same, holds⟩ := kept.exists_held issue delivery
  obtain ⟨datum, delivered, standing⟩ := holds slot request issue
  refine ⟨datum, delivered, ?_⟩
  have typed (stored : Datum)
      (holding : (if (slot, place) ∈ taken events then none else some datum) = some stored) :
      stored.type = request.type := by
    split at holding
    · cases holding
    · obtain ⟨outcome, -, data, value, -, -, rfl⟩ := delivered
      cases holding
      rfl
  rw [perform_get ledger parsers held named, perform_take ledger parsers held named,
    datum_of_standing same.symm standing typed]
  exact ⟨rfl, rfl⟩

/-- A slot that is held was given for a request. -/
theorem exists_issue
    (kept : Kept first events state)
    {slot : Nat}
    {held : KeptSlot}
    (here : state.slots[slot]? = some held) :
    ∃ number request,
      (issued events)[slot]? = some (number, request) ∧
        held = ⟨request.type, ⟨first + number, rank (issued events) number slot⟩⟩ := by
  have inside := (List.getElem?_eq_some_iff.mp here).1
  rw [kept.slots.length_eq] at inside
  have issue := List.getElem?_eq_getElem inside
  have same := kept.slots.each slot _ _ issue
  rw [here] at same
  exact ⟨_, _, issue, Option.some.inj same⟩

/-- Different slots of one batch have different places in it. -/
theorem index_ne_index
    (kept : Kept first events state)
    {slot other : Nat}
    {held further : KeptSlot}
    (here : state.slots[slot]? = some held)
    (there : state.slots[other]? = some further)
    (apart : slot ≠ other)
    (together : held.slot.batch = further.slot.batch) :
    held.slot.index ≠ further.slot.index := by
  obtain ⟨number, request, issue, rfl⟩ := kept.exists_issue here
  obtain ⟨source, asked, others, rfl⟩ := kept.exists_issue there
  obtain rfl : number = source := Nat.add_left_cancel together
  exact rank_ne_rank issue others apart

theorem get_behind_take
    (kept : Kept first events state)
    {slot place other others : Nat}
    (apart : (other, others) ≠ (slot, place)) :
    ((state.perform ledger parsers (.take slot place)).2.perform ledger parsers
        (.get other others)).1 =
      (state.perform ledger parsers (.get other others)).1 := by
  -- A take that names something that is not there changes nothing.
  cases held : state.slots[slot]? with
  | none => simp only [State.perform, held]
  | some here =>
      cases named : state.results[place]? with
      | none => simp only [State.perform, held, named]
      | some found =>
          rw [perform_take ledger parsers held named]
          rcases eq_or_ne place others with rfl | elsewhere
          · cases beside : state.slots[other]? with
            | none => simp only [State.perform, beside]
            | some there =>
                have distinct : slot ≠ other := by
                  rintro rfl
                  exact apart rfl
                have inside := (List.getElem?_eq_some_iff.mp named).1
                have got :
                    State.perform ledger parsers
                        { state with
                          results := state.results.set place (found.take here.slot).2 }
                        (.get other place) = _ :=
                  perform_get ledger parsers beside (List.getElem?_set_self inside)
                rw [got, perform_get ledger parsers beside named, Session.KeptSlot.datum,
                  get_take_of_ne (kept.index_ne_index held beside distinct)]
                rfl
          · exact get_congr ledger parsers rfl (List.getElem?_set_ne elsewhere)

/-- A value that was taken is not there to get or to take again. -/
theorem perform_of_taken
    (kept : Kept first events state)
    {slot place : Nat}
    (held : slot < state.slots.length)
    (named : place < state.results.length)
    (gone : (slot, place) ∈ taken events) :
    (state.perform ledger parsers (.get slot place)).1 = .datum none ∧
      (state.perform ledger parsers (.take slot place)).1 = .datum none := by
  obtain ⟨number, request, issue, -⟩ := kept.exists_issue (List.getElem?_eq_getElem held)
  rw [kept.results.length_eq] at named
  have delivery := List.getElem?_eq_getElem named
  rcases eq_or_ne number (delivered events)[place].1 with rfl | foreign
  · obtain ⟨datum, -, got, took⟩ := kept.perform_of_own ledger parsers issue delivery
    rw [got, took, if_pos gone]
    exact ⟨rfl, rfl⟩
  · obtain ⟨got, took⟩ := kept.perform_of_foreign ledger parsers issue delivery foreign
    rw [got, took]
    exact ⟨rfl, rfl⟩

/-- Behind a take its value is gone, whether it was still there or not. -/
theorem perform_behind_take
    (kept : Kept first events state)
    {slot place : Nat}
    (held : slot < state.slots.length)
    (named : place < state.results.length) :
    let next := (state.perform ledger parsers (.take slot place)).2
    (next.perform ledger parsers (.get slot place)).1 = .datum none ∧
      (next.perform ledger parsers (.take slot place)).1 = .datum none := by
  have took :=
    perform_take ledger parsers (List.getElem?_eq_getElem held) (List.getElem?_eq_getElem named)
  have after : Kept first _ (state.perform ledger parsers (.take slot place)).2 :=
    kept.move (move_perform _)
  rw [took] at after ⊢
  refine after.perform_of_taken ledger parsers held ?_ ?_
  · rw [List.length_set]
    exact named
  · exact List.mem_filterMap.mpr ⟨_, List.mem_append_right _ List.mem_cons_self, rfl⟩

/-- A state that is kept is disciplined. -/
theorem disciplined (kept : Kept first events state) : Disciplined ledger parsers events state where
  recorded := ⟨kept.slots.length_eq, kept.results.length_eq⟩
  closed _ := kept.perform_of_executed ledger parsers
  appends number batch operation asked named unexecuted asks := by
    have isOpen : ¬ batch.closed = true := fun closed =>
      unexecuted ((kept.batches.each number batch named).closed_iff.mp closed)
    exact (perform_of_asks? asks named).trans (if_neg isOpen)
  once := kept.results.once
  foreign _ _ _ _ _ _ := kept.perform_of_foreign ledger parsers
  own _ _ _ _ _ := kept.perform_of_own ledger parsers
  gone _ _ := kept.perform_behind_take ledger parsers
  apart _ _ _ _ := kept.get_behind_take ledger parsers

end Kept

end ContractGateway.Reads
