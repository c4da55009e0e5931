import ContractGateway.Proofs.Batch.Delivery

/-!
# When a batch reports a revert

A batch of reads hands revert data on as the reason of its first failing request.
`Batch.yields_execute_reports` says when exactly it does, whatever the ledger answers: when
everything that it asked for came, the requests before the failing one have their values, and a
round trip brought revert data for the call of the failing one.
-/

namespace ContractGateway.Batch

/--
Behind the requests `before`, which have their values, this is the first request of an open batch
to fail: its call was reverted with these data.
-/
structure RevertsAt
    (batch : Batch)
    (exchanges : List Exchange)
    (before : List Request)
    (failing : Request)
    (data : Bytes) : Prop where
  isOpen : batch.closed = false
  split : ∃ rest, batch.requests = before ++ failing :: rest
  complete : ∀ exchange ∈ exchanges, exchange.IsComplete
  earlier : ∀ request ∈ before, ∃ datum, request.Delivered exchanges datum
  reverted : Brought exchanges failing.call (.failure data)

section Evaluation

variable {parsers : List Revert.ErrorParser} {outcome : Nat → CallOutcome}
  {answer : ReadCall → CallOutcome}

/-- Only revert data make a batch fail at a request, and they give the reason. -/
theorem evaluate_eq_batch_iff
    {index : Nat}
    {place : Option Nat}
    {request : Request}
    {answered : CallOutcome}
    {label : String}
    {cause : BatchFailure} :
    evaluate parsers index request answered = .error (.batch place label cause) ↔
      ∃ data,
        answered = .failure data ∧
          some index = place ∧
          request.label = label ∧ .reverted (Revert.reasonOfCall parsers data) = cause := by
  cases answered with
  | failure data =>
      simp [evaluate]
  | success data =>
      rw [evaluate]
      cases request.decode data <;> simp

/-- Requests that do not all have a value have a first one that fails. -/
theorem exists_first_of_evaluateFrom
    {index : Nat}
    {requests : List Request}
    {error : GatewayError}
    (own : OwnOutcomes outcome answer index requests)
    (fails : evaluateFrom parsers outcome index requests = .error error) :
    ∃ before failing rest,
      requests = before ++ failing :: rest ∧
        (∀ request ∈ before, ∃ datum, request.Gives (answer request.call) datum) ∧
        evaluate parsers (index + before.length) failing (answer failing.call) = .error error := by
  induction requests generalizing index with
  | nil =>
      cases fails
  | cons request rest inductionHypothesis =>
      rcases Results.error_of_bind fails with here | ⟨datum, here, behind⟩
      · rw [own.head] at here
        exact ⟨[], request, rest, rfl, by simp, here⟩
      · rw [own.head] at here
        rcases Results.error_of_bind behind with later | ⟨values, -, made⟩
        · obtain ⟨before, failing, others, rfl, earlier, last⟩ :=
            inductionHypothesis own.tail later
          refine ⟨request :: before, failing, others, rfl, ?_, ?_⟩
          · exact List.forall_mem_cons.mpr ⟨⟨datum, gives_of_evaluate here⟩, earlier⟩
          · rwa [List.length_cons, Nat.add_comm before.length, ← Nat.add_assoc]
        · cases made

/-- The evaluation of requests fails as a batch when the first failing one was reverted. -/
theorem evaluateFrom_eq_batch_iff
    {requests : List Request}
    {place : Option Nat}
    {label : String}
    {cause : BatchFailure}
    (own : OwnOutcomes outcome answer 0 requests) :
    evaluateFrom parsers outcome 0 requests = .error (.batch place label cause) ↔
      ∃ before failing data,
        (∃ rest, requests = before ++ failing :: rest) ∧
          (∀ request ∈ before, ∃ datum, request.Gives (answer request.call) datum) ∧
          answer failing.call = .failure data ∧
          some before.length = place ∧
          failing.label = label ∧ .reverted (Revert.reasonOfCall parsers data) = cause := by
  constructor
  · intro fails
    obtain ⟨before, failing, rest, split, earlier, here⟩ := exists_first_of_evaluateFrom own fails
    rw [Nat.zero_add] at here
    obtain ⟨data, reverted, reads⟩ := evaluate_eq_batch_iff.mp here
    exact ⟨before, failing, data, ⟨rest, split⟩, earlier, reverted, reads⟩
  · rintro ⟨before, failing, data, ⟨rest, rfl⟩, earlier, reverted, reads⟩
    refine evaluateFrom_eq_error earlier own ?_
    rw [Nat.zero_add]
    exact evaluate_eq_batch_iff.mpr ⟨data, reverted, reads⟩

end Evaluation

/-- Once every call has its answer, the answers alone tell which request fails first. -/
theorem AnsweredBy.revertsAt_iff
    {batch : Batch}
    {exchanges : List Exchange}
    {answer : ReadCall → CallOutcome}
    (answered : AnsweredBy batch.requests exchanges answer)
    (isOpen : batch.closed = false)
    {before : List Request}
    {failing : Request}
    {data : Bytes} :
    batch.RevertsAt exchanges before failing data ↔
      (∃ rest, batch.requests = before ++ failing :: rest) ∧
        (∀ request ∈ before, ∃ datum, request.Gives (answer request.call) datum) ∧
        answer failing.call = .failure data := by
  have inside (split : ∃ rest, batch.requests = before ++ failing :: rest) :
      failing ∈ batch.requests ∧ ∀ request ∈ before, request ∈ batch.requests := by
    obtain ⟨rest, split⟩ := split
    rw [split]
    exact ⟨by simp, fun request member => List.mem_append_left _ member⟩
  constructor
  · rintro ⟨-, split, -, earlier, reverted⟩
    obtain ⟨member, members⟩ := inside split
    refine ⟨split, fun request first => ?_, ((answered.brought_iff member _).mp reverted).symm⟩
    obtain ⟨datum, delivered⟩ := earlier request first
    exact ⟨datum, (answered.delivered_iff (members request first) datum).mp delivered⟩
  · rintro ⟨split, earlier, reverted⟩
    obtain ⟨member, members⟩ := inside split
    refine ⟨isOpen, split, answered.complete, fun request first => ?_, ?_⟩
    · obtain ⟨datum, gives⟩ := earlier request first
      exact ⟨datum, (answered.delivered_iff (members request first) datum).mpr gives⟩
    · exact (answered.brought_iff member _).mpr reverted.symm

section Execution

variable {σ : Type}

/-- A batch that is executed with requests takes one of the two courses. -/
theorem yields_execute_course
    (ledger : Ledger σ)
    (parsers : List Revert.ErrorParser)
    (maxCalls : Nat)
    {batch : Batch}
    (isOpen : batch.closed = false)
    (nonempty : batch.requests ≠ [])
    (world : World σ) :
    Process.Yields (batch.execute ledger parsers maxCalls) world fun exchanges answer _ =>
      Course parsers batch exchanges answer.1 := by
  obtain ⟨first, rest, shape⟩ := List.exists_cons_of_ne_nil nonempty
  have course := yields_evaluateAll_course ledger parsers maxCalls batch first world
  unfold execute
  rw [isOpen, shape]
  apply course.bind
  intro exchanges answer middle taken
  apply Process.Yields.pure
  rwa [List.append_nil]

variable {parsers : List Revert.ErrorParser}

/-- The course of a batch decides at which request it fails, if it fails at one. -/
theorem Course.eq_batch_iff
    {batch : Batch}
    {exchanges : List Exchange}
    {answer : Except GatewayError Results}
    (course : Course parsers batch exchanges answer)
    (isOpen : batch.closed = false)
    (index : Nat)
    (label : String)
    (cause : BatchFailure) :
    answer = .error (.batch (some index) label cause) ↔
      ∃ before failing data,
        batch.RevertsAt exchanges before failing data ∧
          before.length = index ∧
          failing.label = label ∧ .reverted (Revert.reasonOfCall parsers data) = cause := by
  cases course with
  | brokenOff member missing =>
      constructor
      · rintro ⟨⟩
      · rintro ⟨before, failing, data, reverts, -⟩
        exact (missing (reverts.complete _ member)).elim
  | answered answers own block =>
      rw [Results.map_eq_error_iff, evaluateFrom_eq_batch_iff own]
      simp only [answers.revertsAt_iff isOpen, and_assoc, Option.some.injEq]

/-- A batch that fails as a whole does so for another cause than a revert. -/
theorem Course.ne_reverted
    {batch : Batch}
    {exchanges : List Exchange}
    {answer : Except GatewayError Results}
    (course : Course parsers batch exchanges answer)
    {label : String}
    {cause : BatchFailure}
    (fails : answer = .error (.batch none label cause))
    (reason : String) :
    cause ≠ .reverted reason := by
  cases course with
  | brokenOff _ _ _ notReverted =>
      cases fails
      exact notReverted reason
  | answered answers own block =>
      obtain ⟨before, failing, data, -, -, -, place, -⟩ :=
        (evaluateFrom_eq_batch_iff own).mp (Results.error_of_map fails)
      cases place

/-- What a batch reports when it fails, by what it exchanged. -/
structure Reports
    (batch : Batch)
    (parsers : List Revert.ErrorParser)
    (exchanges : List Exchange)
    (answer : Except GatewayError Results) : Prop where
  /-- It fails at a request exactly when this is the first to fail and was reverted. -/
  reverted_iff :
    ∀ index label cause,
      answer = .error (.batch (some index) label cause) ↔
        ∃ before failing data,
          batch.RevertsAt exchanges before failing data ∧
            before.length = index ∧
            failing.label = label ∧ .reverted (Revert.reasonOfCall parsers data) = cause
  /-- It fails as a whole for other causes. -/
  notReverted :
    ∀ label cause,
      answer = .error (.batch none label cause) → ∀ reason, cause ≠ .reverted reason

/-- A batch without an execution reports no failure of its requests. -/
theorem Reports.of_idle
    {batch : Batch}
    {exchanges : List Exchange}
    {answer : Except GatewayError Results}
    (idle : batch.closed = true ∨ batch.requests = [])
    (other : ∀ place label cause, answer ≠ .error (.batch place label cause)) :
    Reports batch parsers exchanges answer where
  reverted_iff index label cause := by
    refine ⟨fun fails => (other _ _ _ fails).elim, ?_⟩
    rintro ⟨before, failing, data, reverts, -⟩
    obtain ⟨rest, split⟩ := reverts.split
    rcases idle with closed | nothing
    · cases closed.symm.trans reverts.isOpen
    · simp [nothing] at split
  notReverted label cause fails := (other _ _ _ fails).elim

/-- What an executed batch reports, whatever the ledger answers. -/
theorem yields_execute_reports
    (ledger : Ledger σ)
    (parsers : List Revert.ErrorParser)
    (maxCalls : Nat)
    (batch : Batch)
    (world : World σ) :
    Process.Yields (batch.execute ledger parsers maxCalls) world fun exchanges answer _ =>
      batch.Reports parsers exchanges answer.1 := by
  cases opened : batch.closed with
  | true =>
      unfold execute
      rw [opened]
      exact .pure (.of_idle (.inl opened) (by rintro place label cause ⟨⟩))
  | false =>
      by_cases nothing : batch.requests = []
      · unfold execute
        rw [opened, nothing]
        exact .pure (.of_idle (.inr nothing) (by rintro place label cause ⟨⟩))
      · refine (yields_execute_course ledger parsers maxCalls opened nothing world).weaken ?_
        intro exchanges answer final course
        exact ⟨course.eq_batch_iff opened, fun label cause => course.ne_reverted⟩

end Execution

end ContractGateway.Batch
