import ContractGateway.Proofs.Batch.Attribution
import ContractGateway.Proofs.Batch.Served

/-!
# What an executed batch delivers

A batch that executes has one value for each of its requests. `Batch.yields_execute_delivered` says
where a value comes from: the round trips of the execution brought one outcome for the call of its
request, and the request reads this outcome as the value.
-/

namespace ContractGateway

/-- A round trip among some exchanges brought an outcome for a call. -/
def Brought (exchanges : List Exchange) (call : ReadCall) (outcome : CallOutcome) : Prop :=
  ∃ trip ∈ exchanges,
    ∃ place : Nat, trip.carried[place]? = some call ∧ trip.outcomes[place]? = some outcome

/-- One outcome was brought for the call of a request, and it is read as the value. -/
def Request.Delivered (request : Request) (exchanges : List Exchange) (datum : Datum) : Prop :=
  ∃ outcome,
    (∀ other, Brought exchanges request.call other ↔ other = outcome) ∧
      request.Gives outcome datum

/-- An exchange brought an answer, with one outcome for each call that it carried. -/
structure Exchange.IsComplete (exchange : Exchange) : Prop where
  answered : exchange.answer.isOk = true
  each : exchange.outcomes.length = exchange.carried.length

section Answers

variable {answer : ReadCall → CallOutcome}

theorem length_outcomes_of_isServed
    {trip : Exchange}
    (served : trip.isServed = true) :
    trip.outcomes.length = trip.carried.length := by
  obtain ⟨time, call, reply⟩ := trip
  cases call with
  | aggregate calls block =>
      cases reply with
      | error cause => cases served
      | ok outcomes => exact of_decide_eq_true served
  | _ => cases served

theorem Exchange.isComplete_of_isServed
    {trip : Exchange}
    (served : trip.isServed = true) :
    trip.IsComplete := by
  refine ⟨?_, length_outcomes_of_isServed served⟩
  obtain ⟨time, call, reply⟩ := trip
  cases call with
  | aggregate calls block =>
      cases reply with
      | error cause => cases served
      | ok outcomes => rfl
  | _ => cases served

theorem length_flatMap_outcomes
    {trips : List Exchange}
    (served : ∀ trip ∈ trips, trip.isServed = true) :
    (trips.flatMap Exchange.outcomes).length = (trips.flatMap Exchange.carried).length := by
  rw [List.length_flatMap, List.length_flatMap]
  exact congrArg _ (List.map_congr_left fun trip member =>
    length_outcomes_of_isServed (served trip member))

/-- If one function answers all calls together, it answers those of each round trip. -/
theorem outcomes_eq_map
    {trips : List Exchange}
    (served : ∀ trip ∈ trips, trip.isServed = true)
    (together :
      trips.flatMap Exchange.outcomes = (trips.flatMap Exchange.carried).map answer) :
    ∀ trip ∈ trips, trip.outcomes = trip.carried.map answer := by
  induction trips with
  | nil => simp
  | cons trip rest inductionHypothesis =>
      obtain ⟨here, later⟩ := List.forall_mem_cons.mp served
      rw [List.flatMap_cons, List.flatMap_cons, List.map_append] at together
      have asMany : trip.outcomes.length = (trip.carried.map answer).length := by
        rw [List.length_map, length_outcomes_of_isServed here]
      obtain ⟨own, others⟩ := List.append_inj together asMany
      exact List.forall_mem_cons.mpr ⟨own, inductionHypothesis later others⟩

theorem brought_iff
    {exchanges : List Exchange}
    (own : ∀ exchange ∈ exchanges, exchange.outcomes = exchange.carried.map answer)
    (call : ReadCall)
    (outcome : CallOutcome) :
    Brought exchanges call outcome ↔
      call ∈ exchanges.flatMap Exchange.carried ∧ outcome = answer call := by
  constructor
  · rintro ⟨trip, member, place, carried, brought⟩
    rw [own trip member, List.getElem?_map, carried] at brought
    exact
      ⟨List.mem_flatMap.mpr ⟨trip, member, List.mem_of_getElem? carried⟩,
        (Option.some.inj brought).symm⟩
  · rintro ⟨travelled, rfl⟩
    obtain ⟨trip, member, inside⟩ := List.mem_flatMap.mp travelled
    obtain ⟨place, carried⟩ := List.mem_iff_getElem?.mp inside
    refine ⟨trip, member, place, carried, ?_⟩
    rw [own trip member, List.getElem?_map, carried]
    rfl

end Answers

namespace Batch

/-- The pieces travelled and were all served, and these outcomes came back in their order. -/
structure Conveyed
    (pieces : List (List ReadCall))
    (trips : List Exchange)
    (outcomes : List CallOutcome) : Prop where
  served : ∀ trip ∈ trips, trip.isServed = true
  carried_eq : trips.map Exchange.carried = pieces
  outcomes_eq : trips.flatMap Exchange.outcomes = outcomes

/-- A batch is pinned without a read. -/
theorem Pinned.carried_eq_nil
    {reference : BlockRef}
    {pinning : List Exchange}
    {found : Option Nat}
    (pinned : Pinned reference pinning found) :
    ∀ exchange ∈ pinning, exchange.carried = [] ∧ exchange.outcomes = [] := by
  cases pinned <;> simp [Exchange.carried, Exchange.outcomes]

section Evaluation

variable {parsers : List Revert.ErrorParser} {outcome : Nat → CallOutcome}
  {answer : ReadCall → CallOutcome}

theorem gives_of_evaluate
    {index : Nat}
    {request : Request}
    {answered : CallOutcome}
    {datum : Datum}
    (evaluated : evaluate parsers index request answered = .ok datum) :
    request.Gives answered datum := by
  unfold evaluate at evaluated
  split at evaluated
  · cases evaluated
  · rename_i data
    cases decoded : request.decode data with
    | error cause =>
        rw [decoded] at evaluated
        cases evaluated
    | ok value =>
        rw [decoded] at evaluated
        exact ⟨data, value, rfl, decoded, (Except.ok.inj evaluated).symm⟩

/-- Values that are evaluated are given by the outcomes of the requests' own calls. -/
theorem gives_of_evaluateFrom
    {index : Nat}
    {requests : List Request}
    {values : List Datum}
    (own : OwnOutcomes outcome answer index requests)
    (evaluated : evaluateFrom parsers outcome index requests = .ok values) :
    List.Forall₂ (fun request datum => request.Gives (answer request.call) datum)
      requests values := by
  induction requests generalizing index values with
  | nil =>
      cases evaluated
      exact .nil
  | cons request rest inductionHypothesis =>
      obtain ⟨value, here, evaluated⟩ := Results.exists_ok_of_bind evaluated
      obtain ⟨others, later, made⟩ := Results.exists_ok_of_bind evaluated
      cases made
      rw [own.head] at here
      exact .cons (gives_of_evaluate here) (inductionHypothesis own.tail later)

end Evaluation

/-- All exchanges for some requests are complete, and one function answered the calls. -/
structure AnsweredBy
    (requests : List Request)
    (exchanges : List Exchange)
    (answer : ReadCall → CallOutcome) : Prop where
  complete : ∀ exchange ∈ exchanges, exchange.IsComplete
  own : ∀ exchange ∈ exchanges, exchange.outcomes = exchange.carried.map answer
  calls : exchanges.flatMap Exchange.carried = physicalCalls requests

namespace AnsweredBy

variable {requests : List Request} {exchanges : List Exchange} {answer : ReadCall → CallOutcome}
  {request : Request}

/-- The one outcome that was brought for the call of a request is the answer to it. -/
theorem brought_iff
    (answered : AnsweredBy requests exchanges answer)
    (member : request ∈ requests)
    (outcome : CallOutcome) :
    Brought exchanges request.call outcome ↔ outcome = answer request.call := by
  have asked : request.call ∈ physicalCalls requests := by
    rw [physicalCalls_eq, List.mem_eraseDups]
    exact List.mem_map_of_mem member
  rw [ContractGateway.brought_iff answered.own, answered.calls]
  exact and_iff_right asked

/-- What is delivered to a request is what the answer to its call gives. -/
theorem delivered_iff
    (answered : AnsweredBy requests exchanges answer)
    (member : request ∈ requests)
    (datum : Datum) :
    request.Delivered exchanges datum ↔ request.Gives (answer request.call) datum := by
  constructor
  · rintro ⟨outcome, brought, gives⟩
    have same := (brought _).mp ((answered.brought_iff member _).mpr rfl)
    rwa [same]
  · exact fun gives => ⟨_, answered.brought_iff member, gives⟩

theorem forall₂_delivered
    {data : List Datum}
    (answered : AnsweredBy requests exchanges answer)
    (gives :
      List.Forall₂ (fun request datum => request.Gives (answer request.call) datum)
        requests data) :
    List.Forall₂ (fun request datum => request.Delivered exchanges datum) requests data := by
  obtain ⟨lengths, pairs⟩ := List.forall₂_iff_zip.mp gives
  refine List.forall₂_iff_zip.mpr ⟨lengths, fun paired => ?_⟩
  exact (answered.delivered_iff (List.of_mem_zip paired).1 _).mpr (pairs paired)

end AnsweredBy

/-- Round trips that were all served answer the requests of a batch that was pinned before. -/
theorem Pinned.answeredBy
    {reference : BlockRef}
    {pinning trips : List Exchange}
    {block : Nat}
    {requests : List Request}
    {answer : ReadCall → CallOutcome}
    (pinned : Pinned reference pinning (some block))
    (served : ∀ trip ∈ trips, trip.isServed = true)
    (calls : trips.flatMap Exchange.carried = physicalCalls requests)
    (together : trips.flatMap Exchange.outcomes = (physicalCalls requests).map answer) :
    AnsweredBy requests (pinning ++ trips) answer := by
  have bare := pinned.carried_eq_nil
  have asked : ∀ exchange ∈ pinning, exchange.answer.isOk = true := by
    cases pinned <;> simp [Except.isOk, Except.toBool]
  refine ⟨fun exchange member => ?_, fun exchange member => ?_, ?_⟩
  · rcases List.mem_append.mp member with early | late
    · obtain ⟨nothing, alike⟩ := bare exchange early
      exact ⟨asked exchange early, by rw [nothing, alike]; rfl⟩
    · exact Exchange.isComplete_of_isServed (served exchange late)
  · rcases List.mem_append.mp member with early | late
    · obtain ⟨nothing, alike⟩ := bare exchange early
      rw [nothing, alike, List.map_nil]
    · exact outcomes_eq_map served (by rw [together, calls]) exchange late
  · have nothing : pinning.flatMap Exchange.carried = [] :=
      List.flatMap_eq_nil_iff.mpr fun exchange member => (bare exchange member).1
    rw [List.flatMap_append, nothing, List.nil_append, calls]

/-- How the evaluation of a batch went, by what was exchanged for it. -/
inductive Course
    (parsers : List Revert.ErrorParser)
    (batch : Batch)
    (exchanges : List Exchange) : Except GatewayError Results → Prop where
  /-- Something that was asked for did not come, and the batch fails as a whole. -/
  | brokenOff
      {exchange : Exchange}
      (member : exchange ∈ exchanges)
      (missing : ¬ exchange.IsComplete)
      (label : String)
      {cause : BatchFailure}
      (notReverted : ∀ reason, cause ≠ .reverted reason) :
      Course parsers batch exchanges (.error (.batch none label cause))
  /-- Everything came, and each request has the answer to its own call. -/
  | answered
      {answer : ReadCall → CallOutcome}
      (answers : AnsweredBy batch.requests exchanges answer)
      {outcome : Nat → CallOutcome}
      (own : OwnOutcomes outcome answer 0 batch.requests)
      (block : Nat) :
      Course parsers batch exchanges
        ((evaluateFrom parsers outcome 0 batch.requests).map fun values =>
          ⟨batch.id, some block, values.map some⟩)

/-- A round trip that is not served is not complete, and ends its batch by no revert. -/
theorem not_isComplete_of_not_isServed
    {time block : Nat}
    {piece : List ReadCall}
    {reply : Except TransportError (List CallOutcome)}
    (unserved : ¬ Exchange.isServed ⟨time, .aggregate piece block, reply⟩ = true)
    (number : Nat) :
    ¬ Exchange.IsComplete ⟨time, .aggregate piece block, reply⟩ ∧
      ∃ cause,
        Exchange.failure? number ⟨time, .aggregate piece block, reply⟩ = some cause ∧
          ∀ reason, cause ≠ .reverted reason := by
  cases reply with
  | error cause =>
      exact ⟨by rintro ⟨⟨⟩, -⟩, _, rfl, by rintro reason ⟨⟩⟩
  | ok outcomes =>
      have short : ¬ outcomes.length = piece.length := fun each => unserved (decide_eq_true each)
      exact ⟨fun complete => short complete.each, _, if_neg short, by rintro reason ⟨⟩⟩

/-- Round trips that come to an error are broken off by one that is not complete. -/
theorem Verdict.exists_missing
    {block number : Nat}
    {pieces : List (List ReadCall)}
    {trips : List Exchange}
    {label : Nat → String}
    {error : GatewayError}
    (travelled : Travelled block pieces trips)
    (verdict : Verdict label number trips (.error error)) :
    ∃ trip ∈ trips,
      ¬ trip.IsComplete ∧
        ∃ label cause,
          error = .batch none label cause ∧ ∀ reason, cause ≠ .reverted reason := by
  have unserved : ∃ trip ∈ trips, ¬ trip.isServed = true := by
    by_contra none
    push Not at none
    obtain ⟨outcomes, ended⟩ := verdict.served none
    cases ended
  obtain ⟨trip, member, unserved⟩ := unserved
  obtain ⟨place, made⟩ := List.mem_iff_getElem?.mp member
  have asked : trip.call ∈ trips.map Exchange.call := List.mem_map_of_mem member
  rw [travelled.calls_eq] at asked
  obtain ⟨piece, -, call⟩ := List.mem_map.mp asked
  obtain ⟨time, _, reply⟩ := trip
  obtain rfl := call
  obtain ⟨missing, cause, fails, notReverted⟩ :=
    not_isComplete_of_not_isServed unserved (number + place)
  obtain rfl := Except.error.inj (verdict.failed place _ cause made fails)
  exact ⟨_, member, missing, _, cause, rfl, notReverted⟩

section Execution

variable {σ : Type} (ledger : Ledger σ) (parsers : List Revert.ErrorParser)

theorem yields_travel_conveyed
    (label : Nat → String)
    (block number : Nat)
    (pieces : List (List ReadCall))
    (world : World σ) :
    Process.Yields (travel ledger label block number pieces) world fun trips answer _ =>
      ∀ outcomes, answer = .ok outcomes → Conveyed pieces trips outcomes := by
  induction pieces generalizing number world with
  | nil =>
      apply Process.Yields.pure
      rintro outcomes ⟨⟩
      exact ⟨by simp, rfl, rfl⟩
  | cons piece rest inductionHypothesis =>
      apply (Process.Yields.ask ledger (.aggregate piece block) world).bind
      rintro asked answer middle ⟨rfl, -, -⟩
      cases answer with
      | error cause =>
          apply Process.Yields.pure
          rintro outcomes ⟨⟩
      | ok here =>
          by_cases asMany : here.length = piece.length
          · simp only [asMany, if_true]
            apply (inductionHypothesis (number + 1) middle).bind
            intro trips more final conveyed
            cases more with
            | error error =>
                apply Process.Yields.pure
                rintro outcomes ⟨⟩
            | ok later =>
                apply Process.Yields.pure
                rintro outcomes ⟨⟩
                obtain ⟨served, rfl, rfl⟩ := conveyed later rfl
                rw [List.append_nil]
                exact ⟨List.forall_mem_cons.mpr ⟨decide_eq_true asMany, served⟩, rfl, rfl⟩
          · simp only [asMany, if_false]
            apply Process.Yields.pure
            rintro outcomes ⟨⟩

/-- The evaluation of an open batch with requests takes one of the two courses. -/
theorem yields_evaluateAll_course
    (maxCalls : Nat)
    (batch : Batch)
    (first : Request)
    (world : World σ) :
    Process.Yields (evaluateAll ledger parsers maxCalls batch first) world fun exchanges answer _ =>
      Course parsers batch exchanges answer := by
  apply ((yields_pin ledger first.label batch.block world).and
    (yields_pin_verdict ledger first.label batch.block world)).bind
  rintro pinning answer middle ⟨pinned, headless⟩
  generalize batch.block = reference at pinned
  cases answer with
  | error error =>
      cases pinned with
      | unavailable time cause =>
          obtain rfl := Except.error.inj (headless time cause rfl)
          exact .pure (.brokenOff List.mem_cons_self (by rintro ⟨⟨⟩, -⟩) _ (by rintro reason ⟨⟩))
  | ok block =>
      apply (((yields_travel ledger _ block 0 _ middle).and
        (yields_travel_verdict ledger _ block 0 _ middle)).and
        (yields_travel_conveyed ledger _ block 0 _ middle)).bind
      rintro trips answer final ⟨⟨travelled, verdict⟩, conveyed⟩
      cases answer with
      | error error =>
          obtain ⟨trip, member, missing, label, cause, rfl, notReverted⟩ :=
            verdict.exists_missing travelled
          apply Process.Yields.pure
          rw [List.append_nil]
          exact .brokenOff (List.mem_append_right pinning member) missing label notReverted
      | ok outcomes =>
          obtain ⟨served, carried, rfl⟩ := conveyed outcomes rfl
          have calls : trips.flatMap Exchange.carried = physicalCalls batch.requests := by
            rw [List.flatMap_def, carried, flatten_roundTrips]
          have asMany := length_flatMap_outcomes served
          rw [calls] at asMany
          obtain ⟨answer, together⟩ := Sharing.exists_eq_map batch.requests asMany
          have own := ownOutcomes_sharing batch.requests answer
          rw [physicalCalls, ← together] at own
          apply Process.Yields.pure
          rw [List.append_nil]
          exact .answered (pinned.answeredBy served calls together) own block

/-- The evaluation of requests delivers each of its values. -/
theorem yields_evaluateAll_delivered
    (maxCalls : Nat)
    (batch : Batch)
    (first : Request)
    (world : World σ) :
    Process.Yields (evaluateAll ledger parsers maxCalls batch first) world fun exchanges answer _ =>
      ∀ results,
        answer = .ok results →
        results.batch = batch.id ∧
          ∃ data,
            results.values = data.map some ∧
              List.Forall₂ (fun request datum => request.Delivered exchanges datum)
                batch.requests data := by
  refine (yields_evaluateAll_course ledger parsers maxCalls batch first world).weaken ?_
  intro exchanges answer final course results succeeded
  cases course with
  | brokenOff => cases succeeded
  | answered answers own block =>
      obtain ⟨data, computed, rfl⟩ := Results.exists_ok_of_map succeeded
      exact ⟨rfl, data, rfl, answers.forall₂_delivered (gives_of_evaluateFrom own computed)⟩

/-- An open batch is spent when it is executed, and it delivers what it has values for. -/
theorem yields_execute_delivered
    (maxCalls : Nat)
    {batch : Batch}
    (isOpen : batch.closed = false)
    (world : World σ) :
    Process.Yields (batch.execute ledger parsers maxCalls) world fun exchanges answer _ =>
      answer.2 = batch.spent ∧
        ∀ results,
          answer.1 = .ok results →
          results.batch = batch.id ∧
            ∃ data,
              results.values = data.map some ∧
                List.Forall₂ (fun request datum => request.Delivered exchanges datum)
                  batch.requests data := by
  cases shape : batch.requests with
  | nil =>
      rw [execute, isOpen, shape]
      apply Process.Yields.pure
      refine ⟨rfl, ?_⟩
      rintro results ⟨⟩
      exact ⟨rfl, [], rfl, .nil⟩
  | cons first rest =>
      have evaluates := yields_evaluateAll_delivered ledger parsers maxCalls batch first world
      rw [shape] at evaluates
      rw [execute, isOpen, shape]
      apply evaluates.bind
      intro exchanges answer middle delivered
      apply Process.Yields.pure
      rw [List.append_nil]
      exact ⟨rfl, delivered⟩

end Execution

end Batch

end ContractGateway
