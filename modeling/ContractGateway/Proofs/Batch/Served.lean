import ContractGateway.Proofs.Batch.Traffic

/-!
# Batches whose calls are all answered

What travels with a call, when it travels and what the ledger was asked before may all change how
the call is answered. `Ledger.Serves` says of the answers at one block just that they come, one of
the possible ones for each call. The outcomes of one execution are then those of some function on
the calls, because each distinct call travels once: `Batch.execute_of_serves`.
-/

namespace ContractGateway

variable {σ : Type}

/-- At a block, whichever of some calls travel together, each has one of its possible outcomes. -/
def Ledger.Serves
    (ledger : Ledger σ)
    (block : Nat)
    (calls : List ReadCall)
    (possible : ReadCall → CallOutcome → Prop) : Prop :=
  ∀ trip time state,
    trip ⊆ calls →
    ∃ outcomes,
      (ledger.answer (.aggregate trip block) time state).1 = .ok outcomes ∧
        List.Forall₂ possible trip outcomes

/-- A ledger that answers by call and block alone serves all calls. -/
theorem Ledger.AnswersReads.serves
    {ledger : Ledger σ}
    {answers : ReadCall → Nat → CallOutcome}
    (answersReads : ledger.AnswersReads answers)
    (block : Nat)
    (calls : List ReadCall) :
    ledger.Serves block calls fun call outcome => outcome = answers call block := by
  intro trip time state _
  refine ⟨trip.map (answers · block), answersReads trip block time state, ?_⟩
  rw [List.forall₂_map_right_iff, List.forall₂_same]
  exact fun _ _ => rfl

/-- Outcomes of distinct calls are those of a function on the calls. -/
theorem Sharing.exists_eq_map
    (requests : List Request)
    {outcomes : List CallOutcome}
    (asMany : outcomes.length = (ofRequests requests).calls.length) :
    ∃ answer : ReadCall → CallOutcome, outcomes = (ofRequests requests).calls.map answer := by
  -- A call has one place, so the outcome at its place is well defined.
  let answer : ReadCall → CallOutcome := fun call =>
    (((ofRequests requests).seen.lookup call).bind (outcomes[·]?)).getD (.failure [])
  refine ⟨answer, List.ext_getElem (by rw [List.length_map, asMany]) ?_⟩
  intro place inside _
  have standing :
      (ofRequests requests).calls[place]? = some (ofRequests requests).calls[place] :=
    List.getElem?_eq_getElem (asMany ▸ inside)
  have seen := ((tracks_ofRequests requests).lookup_seen_eq_some_iff _ _).mpr standing
  simp [answer, seen, inside]

namespace Batch

section Serving

variable {ledger : Ledger σ} {block : Nat} {possible : ReadCall → CallOutcome → Prop}

/-- Round trips of calls that are served bring a possible outcome of each call. -/
theorem travel_of_serves
    (label : Nat → String)
    (number : Nat)
    {trips : List (List ReadCall)}
    (serves : ledger.Serves block trips.flatten possible)
    (world : World σ) :
    ∃ outcomes,
      (travel ledger label block number trips world).1 = .ok outcomes ∧
        List.Forall₂ possible trips.flatten outcomes := by
  induction trips generalizing number world with
  | nil =>
      exact ⟨[], rfl, .nil⟩
  | cons calls rest inductionHypothesis =>
      obtain ⟨here, answered, possibleHere⟩ :=
        serves calls world.now world.ledger (List.subset_append_left calls rest.flatten)
      have asked : (ledger.ask (.aggregate calls block) world).1 = .ok here := answered
      have servesRest : ledger.Serves block rest.flatten possible := by
        intro trip time state inside
        exact serves trip time state (List.subset_append_of_subset_right calls inside)
      obtain ⟨later, travelled, possibleLater⟩ :=
        inductionHypothesis (number + 1) servesRest
          (ledger.ask (.aggregate calls block) world).2
      refine ⟨here ++ later, ?_, List.rel_append possibleHere possibleLater⟩
      rw [travel, Process.bind_apply, asked]
      simp [possibleHere.length_eq, travelled]

/--
An open batch whose calls are all served is executed as if each of its calls had one outcome, a
possible one. If these outcomes give a value for each request, then the batch has all its values.
-/
theorem execute_of_serves
    (parsers : List Revert.ErrorParser)
    (maxCalls : Nat)
    {batch : Batch}
    (isOpen : batch.closed = false)
    {world : World σ}
    (pinned : batch.PinnedTo ledger world block)
    (serves : ledger.Serves block (batch.requests.map Request.call) possible) :
    ∃ answer : ReadCall → CallOutcome,
      (∀ request ∈ batch.requests, possible request.call (answer request.call)) ∧
        ∀ values,
          List.Forall₂ (fun request datum => request.Gives (answer request.call) datum)
            batch.requests values →
          ∃ results,
            (batch.execute ledger parsers maxCalls world).1.1 = .ok results ∧
              results.batch = batch.id ∧ results.values = values.map some := by
  cases shape : batch.requests with
  | nil =>
      refine ⟨fun _ => .failure [], by simp, fun values gives => ?_⟩
      obtain rfl := List.forall₂_nil_left_iff.mp gives
      exact ⟨⟨batch.id, emptyBlock batch.block, []⟩, by simp [execute, isOpen, shape], rfl, rfl⟩
  | cons first rest =>
      rw [← shape]
      have distinct := physicalCalls_eq batch.requests
      have whole := flatten_roundTrips maxCalls (physicalCalls batch.requests)
      have servesTrips :
          ledger.Serves block (roundTrips maxCalls (physicalCalls batch.requests)).flatten
            possible := by
        intro trip time state inside
        apply serves trip time state
        rw [whole, distinct] at inside
        exact fun call member => List.mem_eraseDups.mp (inside member)
      obtain ⟨outcomes, travelled, possibleAll⟩ :=
        travel_of_serves (roundTripLabel maxCalls (Sharing.ofRequests batch.requests)
          batch.requests) 0 servesTrips
          (pin ledger first.label batch.block world).2
      rw [whole] at possibleAll
      obtain ⟨answer, rfl⟩ := Sharing.exists_eq_map batch.requests possibleAll.length_eq.symm
      refine ⟨answer, fun request member => ?_, fun values gives => ?_⟩
      · have each := List.forall₂_same.mp (List.forall₂_map_right_iff.mp possibleAll)
        apply each
        rw [distinct, List.mem_eraseDups]
        exact List.mem_map_of_mem member
      · have own := ownOutcomes_sharing batch.requests answer
        refine ⟨⟨batch.id, some block, values.map some⟩, ?_, rfl, rfl⟩
        rw [fst_execute_of_open ledger maxCalls isOpen shape, evaluateAll, Process.bind_apply,
          pin_fst pinned]
        dsimp only
        rw [Process.bind_apply, travelled]
        change (evaluateFrom parsers _ 0 batch.requests).map _ = _
        exact congrArg (Except.map _) (evaluateFrom_eq_ok gives own)

end Serving

end Batch

end ContractGateway
