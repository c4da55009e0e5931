import ContractGateway.Proofs.Batch.Sharing
import Mathlib.Data.List.Forall2

/-!
# Batched reads against reads one by one

Executing a batch shares calls, cuts them into round trips, joins the answers again and hands each
request the answer to its own call. `Batch.evaluateAlone` does none of this: every request makes a
round trip of its own. Over a ledger that answers each read by its call and block alone, both come
to the same: the values in the order of the requests, or the error of the first request that fails.
-/

namespace ContractGateway

variable {σ : Type} {parsers : List Revert.ErrorParser}

/-- Every read is answered by its call and block alone, whatever travels with it. -/
def Ledger.AnswersReads
    (ledger : Ledger σ)
    (answers : ReadCall → Nat → CallOutcome) : Prop :=
  ∀ calls block time state,
    (ledger.answer (.aggregate calls block) time state).1 =
      .ok (calls.map (answers · block))

/-- The outcome of a request's call is read as a value. -/
def Request.Gives
    (request : Request)
    (outcome : CallOutcome)
    (datum : Datum) : Prop :=
  ∃ data value,
    outcome = .success data ∧ request.decode data = .ok value ∧ datum = ⟨request.type, value⟩

namespace Batch

/-- The block that a batch executed in a world is pinned to. -/
def PinnedTo
    (batch : Batch)
    (ledger : Ledger σ)
    (world : World σ)
    (block : Nat) : Prop :=
  match batch.block with
  | .number number => block = number
  | .latest => (ledger.answer .blockNumber world.now world.ledger).1 = .ok block

/-- Evaluates requests in order, each in a round trip of its own, up to the first that fails. -/
def evaluateAlone
    (ledger : Ledger σ)
    (parsers : List Revert.ErrorParser)
    (block : Nat) :
    (index : Nat) → List Request → Process σ (Except GatewayError (List Datum))
  | _, [] => return .ok []
  | index, request :: rest => do
      match ← ledger.ask (.aggregate [request.call] block) with
      | .error cause => return .error (.batch none request.label (.roundTrip 0 cause))
      | .ok [outcome] =>
          match evaluate parsers index request outcome with
          | .error error => return .error error
          | .ok value =>
              return (← evaluateAlone ledger parsers block (index + 1) rest).map (value :: ·)
      | .ok outcomes =>
          return .error (.batch none request.label (.resultCount 0 outcomes.length 1))

/-- The first calls of a list, cut into pieces and joined again. -/
private theorem flatten_pieces
    (calls : List ReadCall)
    (size count : Nat) :
    ((List.range count).map fun number => (calls.drop (number * size)).take size).flatten =
      calls.take (count * size) := by
  induction count with
  | zero =>
      simp
  | succ count inductionHypothesis =>
      rw [List.range_succ, List.map_append, List.flatten_append, inductionHypothesis,
        Nat.succ_mul, List.take_add]
      simp

theorem flatten_roundTrips
    (maxCalls : Nat)
    (calls : List ReadCall) :
    (roundTrips maxCalls calls).flatten = calls := by
  have positive : 0 < max maxCalls 1 := by omega
  have enough :
      calls.length ≤
        (calls.length + max maxCalls 1 - 1) / max maxCalls 1 * max maxCalls 1 := by
    have division :=
      Nat.div_add_mod (calls.length + max maxCalls 1 - 1) (max maxCalls 1)
    have remainder :=
      Nat.mod_lt (calls.length + max maxCalls 1 - 1) positive
    rw [Nat.mul_comm] at division
    omega
  rw [roundTrips, flatten_pieces, List.take_of_length_le enough]

/-- From an index on, the outcomes are the answers to the requests' own calls. -/
def OwnOutcomes
    (outcome : Nat → CallOutcome)
    (answer : ReadCall → CallOutcome)
    (index : Nat)
    (requests : List Request) : Prop :=
  ∀ (place : Nat) (request : Request),
    requests[place]? = some request → outcome (index + place) = answer request.call

namespace OwnOutcomes

variable {outcome : Nat → CallOutcome} {answer : ReadCall → CallOutcome} {index : Nat}
  {request : Request} {rest : List Request}

theorem head (own : OwnOutcomes outcome answer index (request :: rest)) :
    outcome index = answer request.call := by
  simpa using own 0 request rfl

theorem tail (own : OwnOutcomes outcome answer index (request :: rest)) :
    OwnOutcomes outcome answer (index + 1) rest := by
  intro place later found
  have shifted := own (place + 1) later (by simpa using found)
  rwa [Nat.add_right_comm, Nat.add_assoc]

end OwnOutcomes

section Execution

variable {ledger : Ledger σ} {answers : ReadCall → Nat → CallOutcome}

/-- Round trips over such a ledger bring back the answers to all calls in order. -/
theorem travel_fst
    (answersReads : ledger.AnswersReads answers)
    (label : Nat → String)
    (block number : Nat)
    (trips : List (List ReadCall))
    (world : World σ) :
    (travel ledger label block number trips world).1 =
      .ok (trips.flatten.map (answers · block)) := by
  induction trips generalizing number world with
  | nil =>
      rfl
  | cons calls rest inductionHypothesis =>
      have answered :
          (ledger.ask (.aggregate calls block) world).1 =
            .ok (calls.map (answers · block)) :=
        answersReads calls block world.now world.ledger
      have after :=
        inductionHypothesis (number + 1) (ledger.ask (.aggregate calls block) world).2
      rw [travel, Process.bind_apply, answered]
      simp [after]

/-- Pinning a batch gives its block. -/
theorem pin_fst
    {batch : Batch}
    {world : World σ}
    {block : Nat}
    (pinned : batch.PinnedTo ledger world block)
    (label : String) :
    (pin ledger label batch.block world).1 = .ok block := by
  unfold PinnedTo at pinned
  cases reference : batch.block with
  | number number =>
      simp only [reference] at pinned
      subst pinned
      rfl
  | latest =>
      simp only [reference] at pinned
      have answered : (ledger.ask .blockNumber world).1 = .ok block := pinned
      rw [pin, Process.bind_apply, answered]
      rfl

/--
Evaluating each request alone gives what evaluating them from the answers to their own calls
gives.
-/
theorem evaluateAlone_fst
    (answersReads : ledger.AnswersReads answers)
    {block : Nat}
    {outcome : Nat → CallOutcome}
    {index : Nat}
    {requests : List Request}
    (own : OwnOutcomes outcome (answers · block) index requests)
    (world : World σ) :
    (evaluateAlone ledger parsers block index requests world).1 =
      evaluateFrom parsers outcome index requests := by
  induction requests generalizing index world with
  | nil =>
      rfl
  | cons request rest inductionHypothesis =>
      have answered :
          (ledger.ask (.aggregate [request.call] block) world).1 =
            .ok [answers request.call block] :=
        answersReads [request.call] block world.now world.ledger
      rw [evaluateAlone, Process.bind_apply, answered, evaluateFrom, own.head]
      cases evaluated : evaluate parsers index request (answers request.call block) with
      | error error =>
          simp [evaluated, bind, Except.bind]
      | ok value =>
          simp only [evaluated, Process.bind_apply, Process.pure_apply]
          rw [inductionHypothesis own.tail]
          cases evaluateFrom parsers outcome (index + 1) rest <;> rfl

end Execution

section Evaluation

variable {outcome : Nat → CallOutcome} {answer : ReadCall → CallOutcome}

theorem evaluate_eq_ok
    {request : Request}
    {answered : CallOutcome}
    {datum : Datum}
    (gives : request.Gives answered datum)
    (index : Nat) :
    evaluate parsers index request answered = .ok datum := by
  obtain ⟨data, value, succeeded, decoded, rfl⟩ := gives
  simp [evaluate, succeeded, decoded]

/-- Requests that all give a value are evaluated to their values in order. -/
theorem evaluateFrom_eq_ok
    {index : Nat}
    {requests : List Request}
    {values : List Datum}
    (gives :
      List.Forall₂ (fun request datum => request.Gives (answer request.call) datum)
        requests values)
    (own : OwnOutcomes outcome answer index requests) :
    evaluateFrom parsers outcome index requests = .ok values := by
  induction gives generalizing index with
  | nil =>
      rfl
  | cons given _ inductionHypothesis =>
      rw [evaluateFrom, own.head, evaluate_eq_ok given, inductionHypothesis own.tail]
      rfl

/-- The first request that gives no value decides the error. -/
theorem evaluateFrom_eq_error
    {index : Nat}
    {before rest : List Request}
    {failing : Request}
    {error : GatewayError}
    (earlier : ∀ request ∈ before, ∃ datum, request.Gives (answer request.call) datum)
    (own : OwnOutcomes outcome answer index (before ++ failing :: rest))
    (fails :
      evaluate parsers (index + before.length) failing (answer failing.call) = .error error) :
    evaluateFrom parsers outcome index (before ++ failing :: rest) = .error error := by
  induction before generalizing index with
  | nil =>
      rw [List.length_nil, Nat.add_zero] at fails
      rw [List.nil_append] at own ⊢
      rw [evaluateFrom, own.head, fails]
      rfl
  | cons request before inductionHypothesis =>
      obtain ⟨datum, given⟩ := earlier request (by simp)
      have restFails :
          evaluateFrom parsers outcome (index + 1) (before ++ failing :: rest) = .error error := by
        apply inductionHypothesis
        · intro later member
          exact earlier later (by simp [member])
        · exact own.tail
        · rw [List.length_cons] at fails
          rwa [Nat.add_right_comm, Nat.add_assoc]
      rw [List.cons_append] at own ⊢
      rw [evaluateFrom, own.head, evaluate_eq_ok given, restFails]
      rfl

end Evaluation

/-- Sharing hands every request the answer to its own call. -/
theorem ownOutcomes_sharing
    (requests : List Request)
    (answer : ReadCall → CallOutcome) :
    OwnOutcomes
      (fun index =>
        ((Sharing.ofRequests requests).outcome?
          ((physicalCalls requests).map answer) index).getD (.failure []))
      answer 0 requests := by
  intro place request found
  rw [Nat.zero_add]
  simp only [physicalCalls, Sharing.outcome?_ofRequests found, Option.getD_some]

/-- An open batch with requests comes to what its evaluation comes to. -/
theorem fst_execute_of_open
    (ledger : Ledger σ)
    (maxCalls : Nat)
    {batch : Batch}
    (isOpen : batch.closed = false)
    {first : Request}
    {rest : List Request}
    (shape : batch.requests = first :: rest)
    (world : World σ) :
    (batch.execute ledger parsers maxCalls world).1.1 =
      (evaluateAll ledger parsers maxCalls batch first world).1 := by
  simp [execute, isOpen, shape]

/-- The answer to an executed batch, whatever its calls travelled in. -/
theorem execute_fst
    {ledger : Ledger σ}
    {answers : ReadCall → Nat → CallOutcome}
    (answersReads : ledger.AnswersReads answers)
    (maxCalls : Nat)
    {batch : Batch}
    (isOpen : batch.closed = false)
    (nonempty : batch.requests ≠ [])
    {world : World σ}
    {block : Nat}
    (pinned : batch.PinnedTo ledger world block) :
    (batch.execute ledger parsers maxCalls world).1.1 =
      (evaluateFrom parsers
        (fun index =>
          ((Sharing.ofRequests batch.requests).outcome?
            ((physicalCalls batch.requests).map (answers · block)) index).getD (.failure []))
        0 batch.requests).map
        fun values => ⟨batch.id, some block, values.map some⟩ := by
  cases shape : batch.requests with
  | nil =>
      exact (nonempty shape).elim
  | cons first rest =>
      rw [← shape, fst_execute_of_open ledger maxCalls isOpen shape, evaluateAll,
        Process.bind_apply, pin_fst pinned]
      dsimp only
      rw [Process.bind_apply, travel_fst answersReads, flatten_roundTrips]
      rfl

/--
Over a ledger that answers each read by its call and block alone, a batch comes to what its
requests come to one by one at the pinned block, however many calls a round trip carries and
whichever requests share a call: all values in order, or the error of the first request that
fails, under its own index and label.
-/
theorem execute_eq_evaluateAlone
    (ledger : Ledger σ)
    (answers : ReadCall → Nat → CallOutcome)
    (answersReads : ledger.AnswersReads answers)
    (maxCalls : Nat)
    (batch : Batch)
    (isOpen : batch.closed = false)
    (nonempty : batch.requests ≠ [])
    (world alone : World σ)
    (block : Nat)
    (pinned : batch.PinnedTo ledger world block) :
    (batch.execute ledger parsers maxCalls world).1.1 =
        (evaluateAlone ledger parsers block 0 batch.requests alone).1.map
          (fun values => ⟨batch.id, some block, values.map some⟩) ∧
      (∀ values,
        List.Forall₂
          (fun request datum => request.Gives (answers request.call block) datum)
          batch.requests values →
        (batch.execute ledger parsers maxCalls world).1.1 =
          .ok ⟨batch.id, some block, values.map some⟩) ∧
      (∀ before failing rest,
        batch.requests = before ++ failing :: rest →
        (∀ request ∈ before, ∃ datum, request.Gives (answers request.call block) datum) →
        (∀ data,
          answers failing.call block = .failure data →
          (batch.execute ledger parsers maxCalls world).1.1 =
            .error
              (.batch (some before.length) failing.label
                (.reverted (Revert.reasonOfCall parsers data)))) ∧
        (∀ data cause,
          answers failing.call block = .success data →
          failing.decode data = .error cause →
          (batch.execute ledger parsers maxCalls world).1.1 =
            .error (.slot before.length failing.label cause))) := by
  have own := ownOutcomes_sharing batch.requests (answers · block)
  rw [execute_fst answersReads maxCalls isOpen nonempty pinned]
  refine ⟨?_, ?_, ?_⟩
  · rw [evaluateAlone_fst answersReads own]
  · intro values gives
    rw [evaluateFrom_eq_ok gives own]
    rfl
  · intro before failing rest shape earlier
    rw [shape] at own ⊢
    constructor
    · intro data reverted
      have fails :
          evaluate parsers (0 + before.length) failing (answers failing.call block) =
            .error
              (.batch (some before.length) failing.label
                (.reverted (Revert.reasonOfCall parsers data))) := by
        simp [evaluate, reverted]
      rw [evaluateFrom_eq_error earlier own fails]
      rfl
    · intro data cause succeeded undecoded
      have fails :
          evaluate parsers (0 + before.length) failing (answers failing.call block) =
            .error (.slot before.length failing.label cause) := by
        simp [evaluate, succeeded, undecoded]
      rw [evaluateFrom_eq_error earlier own fails]
      rfl

/-- A ledger that answers every read with its own call data. -/
def echo : Ledger Unit where
  defaultSender := none
  answer
    | .aggregate calls _, _, state =>
        (.ok (calls.map fun call => .success call.calldata), state)
    | _, _, state => (.error .backendGone, state)

/-- Three reads of undecoded data, the last of which shares the call of the first. -/
def echoed : Batch where
  id := 1
  block := .number 9
  requests :=
    [⟨0, "first", [1], .bytes, .ok⟩, ⟨0, "second", [2], .bytes, .ok⟩,
      ⟨0, "third", [1], .bytes, .ok⟩]

/-- Every request of the batch gets its own call data, with one call a round trip. -/
theorem execute_echoed :
    echo.AnswersReads (fun call _ => .success call.calldata) ∧
      echoed.closed = false ∧
      echoed.requests ≠ [] ∧
      echoed.PinnedTo echo (.start ()) 9 ∧
      (echoed.execute echo [] 0 (.start ())).1.1 =
        .ok ⟨1, some 9, [some ⟨.bytes, [1]⟩, some ⟨.bytes, [2]⟩, some ⟨.bytes, [1]⟩]⟩ := by
  have answersReads : echo.AnswersReads (fun call _ => .success call.calldata) :=
    fun _ _ _ _ => rfl
  have nonempty : echoed.requests ≠ [] := by
    simp [echoed]
  refine ⟨answersReads, rfl, nonempty, rfl, ?_⟩
  apply (execute_eq_evaluateAlone echo _ answersReads 0 echoed rfl nonempty (.start ())
    (.start ()) 9 rfl).2.1 [⟨.bytes, [1]⟩, ⟨.bytes, [2]⟩, ⟨.bytes, [1]⟩]
  exact .cons ⟨[1], [1], rfl, rfl, rfl⟩
    (.cons ⟨[2], [2], rfl, rfl, rfl⟩ (.cons ⟨[1], [1], rfl, rfl, rfl⟩ .nil))

end Batch

end ContractGateway
