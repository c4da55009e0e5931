import ContractGateway.Proofs.Transaction.Sending
import ContractGateway.Proofs.Transaction.Sightings
import ContractGateway.Proofs.Transaction.Submissions
import Mathlib.Data.List.Forall2

/-!
# The order of calls in a sequence

A sequence takes its writes in order, each one once. `StepRecord` keeps what one write exchanged
while it was submitted and while it was awaited, `SequencePolicy.trace` puts the records of a
sequence together in the order of its policy, and `SequencePolicy.goesOn` says after which step the
next one is taken: after a confirmed one, or after any that the ledger took.

`Client.submitSequence_discipline` says that every sequence is such a trace, whatever the ledger
answers: no write is sent twice or out of order, and nothing is sent while a transaction is awaited.
-/

namespace ContractGateway

variable {σ : Type}

namespace LedgerCall

/-- The call looks for a receipt or for the blocks on top of it. -/
def isPolling : LedgerCall → Bool
  | .receipt _ | .blockNumber => true
  | _ => false

end LedgerCall

namespace Exchange

def isReceiptQuery : Exchange → Bool
  | ⟨_, .receipt _, _⟩ => true
  | _ => false

theorem sent?_eq_none_of_isPolling
    {exchange : Exchange}
    (polling : exchange.call.isPolling = true) :
    exchange.sent? = none := by
  rcases exchange with ⟨time, call, answer⟩
  cases call with
  | send request =>
      cases polling
  | _ =>
      rfl

theorem isReceiptQuery_eq_false_of_isPreparing
    {exchange : Exchange}
    (preparing : exchange.call.isPreparing = true) :
    exchange.isReceiptQuery = false := by
  rcases exchange with ⟨time, call, answer⟩
  cases call with
  | receipt hash =>
      cases preparing
  | _ =>
      rfl

theorem isReceiptQuery_eq_false_of_isFatal
    {exchange : Exchange}
    (fatal : exchange.isFatal = true) :
    exchange.isReceiptQuery = false := by
  rcases exchange with ⟨time, call, answer⟩
  cases call with
  | receipt hash =>
      cases fatal
  | _ =>
      rfl

end Exchange

/-- A wait for a submitted transaction, with what was exchanged for it. -/
structure WaitRecord where
  handle : Handle
  polls : List Exchange
  result : TransactionResult

/-- The record is one of a client's waits: it polls at once, and does nothing but poll. -/
structure WaitRecord.Made (client : Client σ) (wait : WaitRecord) : Prop where
  waited :
    ∃ timeout world,
      (client.await wait.handle timeout world).1 = wait.result ∧
        (client.await wait.handle timeout world).2.history = world.history ++ wait.polls
  polled :
    ∃ first rest, wait.polls = first :: rest ∧ first.call = .receipt wait.handle.hash
  onlyPolls : ∀ exchange ∈ wait.polls, exchange.call.isPolling = true

theorem WaitRecord.Made.sentRequests_eq_nil
    {client : Client σ}
    {wait : WaitRecord}
    (made : wait.Made client) :
    sentRequests wait.polls = [] := by
  rw [sentRequests, List.filterMap_eq_nil_iff]
  intro exchange member
  exact Exchange.sent?_eq_none_of_isPolling (made.onlyPolls exchange member)

/-- One write of a sequence: how it was submitted, and the wait for it if the ledger took it. -/
structure StepRecord where
  write : PreparedWrite
  submission : List Exchange
  wait : Option WaitRecord

namespace StepRecord

def waiting (step : StepRecord) : List Exchange := (step.wait.map (·.polls)).getD []

/-- The record is one of a client's steps. -/
structure Made (client : Client σ) (step : StepRecord) : Prop where
  sending : Sending client step.write step.submission (step.wait.map (·.handle))
  waits : ∀ wait ∈ step.wait, wait.Made client

variable {client : Client σ} {step : StepRecord}

theorem Made.sentRequests_waiting (made : step.Made client) : sentRequests step.waiting = [] := by
  rw [waiting]
  cases awaited : step.wait with
  | none => rfl
  | some wait => exact (made.waits wait awaited).sentRequests_eq_nil

/-- A step sends its write at most once, and exactly once when it is awaited. -/
theorem Made.sentRequests_submission (made : step.Made client) :
    (∃ request, sentRequests step.submission = [request] ∧ client.Carries step.write request) ∨
      (sentRequests step.submission = [] ∧ step.wait.isSome = false) := by
  have sending := made.sending
  generalize step.submission = exchanges at sending ⊢
  cases awaited : step.wait with
  | some wait =>
      rw [awaited] at sending
      cases sending with
      | accepted before time request _ preparing carries =>
          refine .inl ⟨request, ?_, carries⟩
          rw [sentRequests_append, preparing.sentRequests_eq_nil]
          rfl
  | none =>
      rw [awaited] at sending
      cases sending with
      | stopped before last preparing fatal own =>
          rw [sentRequests_append, preparing.sentRequests_eq_nil]
          cases sent : last.sent? with
          | none => exact .inr ⟨by simp [sentRequests, sent], rfl⟩
          | some request => exact .inl ⟨request, by simp [sentRequests, sent], own request sent⟩

/-- No receipt is asked for while a write is submitted. -/
theorem Made.isReceiptQuery_submission (made : step.Made client) :
    ∀ exchange ∈ step.submission, exchange.isReceiptQuery = false := by
  have sending := made.sending
  generalize step.submission = exchanges, step.wait.map _ = handle at sending ⊢
  intro exchange member
  cases sending with
  | accepted before time request _ preparing carries =>
      rcases List.mem_append.mp member with early | last
      · exact Exchange.isReceiptQuery_eq_false_of_isPreparing (preparing exchange early).1
      · obtain rfl := List.mem_singleton.mp last
        rfl
  | stopped before final preparing fatal own =>
      rcases List.mem_append.mp member with early | last
      · exact Exchange.isReceiptQuery_eq_false_of_isPreparing (preparing exchange early).1
      · obtain rfl := List.mem_singleton.mp last
        exact Exchange.isReceiptQuery_eq_false_of_isFatal fatal

end StepRecord

namespace SequencePolicy

/-- The exchanges of a sequence, in the order of its policy. -/
def trace : SequencePolicy → List StepRecord → List Exchange
  | .sequential, steps => steps.flatMap fun step => step.submission ++ step.waiting
  | .parallel, steps => steps.flatMap (·.submission) ++ steps.flatMap (·.waiting)

/-- Whether the write behind a step is taken. -/
def goesOn : SequencePolicy → StepRecord → Bool
  | .sequential, step => step.wait.any (·.result.isConfirmed)
  | .parallel, step => step.wait.isSome

theorem isSome_of_goesOn
    {policy : SequencePolicy}
    {step : StepRecord}
    (goesOn : policy.goesOn step = true) :
    step.wait.isSome = true := by
  cases policy with
  | parallel =>
      exact goesOn
  | sequential =>
      cases awaited : step.wait with
      | none =>
          simp [SequencePolicy.goesOn, awaited] at goesOn
      | some wait =>
          rfl

/-- A sequence sends just what the submissions of its steps send. -/
theorem sentRequests_trace
    {client : Client σ}
    (policy : SequencePolicy)
    {steps : List StepRecord}
    (made : ∀ step ∈ steps, step.Made client) :
    sentRequests (policy.trace steps) = steps.flatMap fun step => sentRequests step.submission := by
  have silent : (steps.flatMap fun step => sentRequests step.waiting) = [] := by
    rw [List.flatMap_eq_nil_iff]
    exact fun step member => (made step member).sentRequests_waiting
  cases policy with
  | parallel =>
      rw [trace, sentRequests_append]
      simp only [sentRequests, List.filterMap_flatMap] at silent ⊢
      rw [silent, List.append_nil]
  | sequential =>
      rw [trace, sentRequests, List.filterMap_flatMap]
      apply List.flatMap_congr
      intro step member
      rw [List.filterMap_append]
      change sentRequests step.submission ++ sentRequests step.waiting = _
      rw [(made step member).sentRequests_waiting, List.append_nil]

end SequencePolicy

/-- The steps take the writes in order, up to the first step that does not go on. -/
inductive Disciplined (client : Client σ) (policy : SequencePolicy) :
    List PreparedWrite → List StepRecord → Prop where
  | done : Disciplined client policy [] []
  | ended
      (step : StepRecord)
      (rest : List PreparedWrite)
      (made : step.Made client)
      (stops : policy.goesOn step = false) :
      Disciplined client policy (step.write :: rest) [step]
  | next
      (step : StepRecord)
      (rest : List PreparedWrite)
      (steps : List StepRecord)
      (made : step.Made client)
      (goesOn : policy.goesOn step = true)
      (later : Disciplined client policy rest steps) :
      Disciplined client policy (step.write :: rest) (step :: steps)

namespace Disciplined

variable {client : Client σ} {policy : SequencePolicy} {writes : List PreparedWrite}
  {steps : List StepRecord}

theorem made
    (disciplined : Disciplined client policy writes steps) :
    ∀ step ∈ steps, step.Made client := by
  induction disciplined with
  | done => simp
  | ended step rest made stops => simpa using made
  | next step rest steps made goesOn later inductionHypothesis =>
      simpa using ⟨made, inductionHypothesis⟩

theorem writes_eq
    (disciplined : Disciplined client policy writes steps) :
    steps.map (·.write) = writes.take steps.length := by
  induction disciplined with
  | done => rfl
  | ended step rest made stops => simp
  | next step rest steps made goesOn later inductionHypothesis => simp [inductionHypothesis]

/-- Only the last step may be one that does not go on. -/
theorem goesOn_of_mem_dropLast
    (disciplined : Disciplined client policy writes steps) :
    ∀ step ∈ steps.dropLast, policy.goesOn step = true := by
  induction disciplined with
  | done => simp
  | ended step rest made stops => simp
  | next step rest steps made goesOn later inductionHypothesis =>
      cases steps with
      | nil => simp
      | cons second others => simpa using ⟨goesOn, inductionHypothesis⟩

theorem length_eq_of_goesOn
    (disciplined : Disciplined client policy writes steps)
    (allGoOn : ∀ step ∈ steps, policy.goesOn step = true) :
    steps.length = writes.length := by
  induction disciplined with
  | done => rfl
  | ended step rest made stops =>
      rw [allGoOn step List.mem_cons_self] at stops
      cases stops
  | next step rest steps made goesOn later inductionHypothesis =>
      obtain ⟨-, others⟩ := List.forall_mem_cons.mp allGoOn
      rw [List.length_cons, List.length_cons, inductionHypothesis others]

/-- The transactions that are sent carry the first writes, one each. -/
theorem carries
    (disciplined : Disciplined client policy writes steps) :
    ∃ count,
      List.Forall₂ client.Carries (writes.take count)
        (steps.flatMap fun step => sentRequests step.submission) := by
  induction disciplined with
  | done => exact ⟨0, .nil⟩
  | ended step rest made stops =>
      rcases made.sentRequests_submission with ⟨request, sent, carries⟩ | ⟨unsent, -⟩
      · exact ⟨1, by simpa [sent] using carries⟩
      · exact ⟨0, by simp [unsent]⟩
  | next step rest steps made goesOn later inductionHypothesis =>
      obtain ⟨count, carriesLater⟩ := inductionHypothesis
      -- A step that goes on was awaited, and so its write was sent.
      rcases made.sentRequests_submission with ⟨request, sent, carries⟩ | ⟨-, unawaited⟩
      · exact ⟨count + 1, by simpa [sent] using ⟨carries, carriesLater⟩⟩
      · rw [SequencePolicy.isSome_of_goesOn goesOn] at unawaited
        cases unawaited

end Disciplined

theorem Poll.Made.first_eq
    {required : Nat}
    {hash : Hash}
    {exchanges : List Exchange}
    {found : Poll}
    (made : Poll.Made required hash exchanges found) :
    ∃ first rest, exchanges = first :: rest ∧ first.call = .receipt hash := by
  cases made <;> exact ⟨_, _, rfl, rfl⟩

theorem Poll.Made.isPolling
    {required : Nat}
    {hash : Hash}
    {exchanges : List Exchange}
    {found : Poll}
    (made : Poll.Made required hash exchanges found) :
    ∀ exchange ∈ exchanges, exchange.call.isPolling = true := by
  intro exchange member
  cases made with
  | headless | measured =>
      rcases List.mem_cons.mp member with rfl | behind
      · rfl
      · obtain rfl := List.mem_singleton.mp behind
        rfl
  | _ =>
      obtain rfl := List.mem_singleton.mp member
      rfl

namespace Watch.Course

variable
  {config : ConfirmationConfig} {hash : Hash} {deadline fuel now : Nat} {watch : Watch}
  {polls : List PollRecord} {outcome : Outcome}

/-- A wait that may poll begins with a receipt query, whatever the time. -/
theorem first_eq
    (course : Course config hash deadline (fuel + 1) now watch polls outcome) :
    ∃ first rest,
      polls.flatMap PollRecord.exchanges = first :: rest ∧ first.call = .receipt hash := by
  cases course with
  | finished fuel watch poll outcome made decision =>
      obtain ⟨first, rest, shape, query⟩ := Poll.Made.first_eq made
      exact ⟨first, rest, by simp [shape], query⟩
  | paused fuel wake watch next poll rest outcome made decision course =>
      obtain ⟨first, others, shape, query⟩ := Poll.Made.first_eq made
      exact ⟨first, others ++ rest.flatMap PollRecord.exchanges, by simp [shape], query⟩

theorem isPolling
    (course : Course config hash deadline fuel now watch polls outcome) :
    ∀ exchange ∈ polls.flatMap PollRecord.exchanges, exchange.call.isPolling = true := by
  intro exchange member
  obtain ⟨poll, polled, inside⟩ := List.mem_flatMap.mp member
  exact Poll.Made.isPolling (course.made poll polled) exchange inside

end Watch.Course

namespace Client

variable (client : Client σ)

/-- A wait may always poll once. -/
theorem pollLimit_eq_succ (timeout : Nat) :
    ∃ fuel, client.pollLimit timeout = fuel + 1 := by
  rw [pollLimit]
  split <;> exact ⟨_, rfl⟩

/-- Every wait can be recorded. -/
theorem records_await
    (handle : Handle)
    (timeout : Nat)
    (world : World σ) :
    Process.Yields (client.await handle timeout) world fun exchanges result _ =>
      WaitRecord.Made client ⟨handle, exchanges, result⟩ := by
  obtain ⟨exchanges, added, -, -, polls, rfl, course⟩ := client.yields_await handle timeout world
  obtain ⟨fuel, limit⟩ := client.pollLimit_eq_succ timeout
  rw [limit] at course
  exact ⟨_, added, ⟨timeout, world, rfl, added⟩, course.first_eq, course.isPolling⟩

/-- A sequence that waits between its writes takes them up to the first unconfirmed one. -/
theorem disciplined_submitSequential
    (timeout index : Nat)
    (completed : List TransactionResult)
    (writes : List PreparedWrite)
    (world : World σ) :
    Process.Yields (client.submitSequential timeout index completed writes) world
      fun exchanges _ _ =>
        ∃ steps,
          exchanges = SequencePolicy.sequential.trace steps ∧
            Disciplined client .sequential writes steps := by
  induction writes generalizing index completed world with
  | nil =>
      exact .pure ⟨[], rfl, .done⟩
  | cons write rest inductionHypothesis =>
      apply (client.sending_submitWith write none world).bind
      intro submission answer middle sending
      cases answer with
      | error error =>
          let step : StepRecord := ⟨write, submission, none⟩
          have made : step.Made client := ⟨sending, by simp [step]⟩
          exact .pure
            ⟨[step], by simp [SequencePolicy.trace, step, StepRecord.waiting],
              .ended step rest made rfl⟩
      | ok handle =>
          apply (client.records_await handle timeout middle).bind
          intro polls result behind waits
          let step : StepRecord := ⟨write, submission, some ⟨handle, polls, result⟩⟩
          have made : step.Made client := ⟨sending, by rintro wait ⟨⟩; exact waits⟩
          cases confirmed : result.isConfirmed with
          | false =>
              exact .pure
                ⟨[step], by simp [SequencePolicy.trace, step, StepRecord.waiting],
                  .ended step rest made confirmed⟩
          | true =>
              apply (inductionHypothesis (index + 1) (completed ++ [result]) behind).weaken
              rintro _ answer final ⟨steps, rfl, disciplined⟩
              exact
                ⟨step :: steps, by simp [SequencePolicy.trace, step, StepRecord.waiting],
                  .next step rest steps made confirmed disciplined⟩

/-- A nonce is assigned unless it cannot be looked up. -/
theorem leads_assignNonce
    (write : PreparedWrite)
    (nonces : NonceTable)
    (world : World σ) :
    Process.Yields (client.assignNonce write nonces) world fun exchanges result _ =>
      Leads exchanges result.isOk := by
  apply (client.yields_assignNonce write nonces world).weaken
  intro exchanges result final assignment
  cases assignment with
  | carried nonce carries => exact .nothing
  | senderless unset noSender => exact .nothing
  | continued sender nonce unset sends known => exact .nothing
  | begun sender time nonce unset sends unknown => exact .onwards _ (.single rfl rfl)
  | failed sender time cause unset sends unknown => exact .stopped [] _ .nil rfl rfl

/--
Writes that are submitted together are taken in order, up to the first that the ledger did not take.
Each one that it took is a step with the wait that is recorded for its handle.
-/
theorem disciplined_submitAll
    (index : Nat)
    (nonces : NonceTable)
    (writes : List PreparedWrite)
    (world : World σ) :
    Process.Yields (client.submitAll index nonces writes) world fun exchanges submitted _ =>
      ∀ waits : List WaitRecord,
        waits.map (·.handle) = submitted.1 →
        (∀ wait ∈ waits, wait.Made client) →
        ∃ steps : List StepRecord,
          exchanges = steps.flatMap (·.submission) ∧
            waits.flatMap (·.polls) = steps.flatMap (·.waiting) ∧
            Disciplined client .parallel writes steps := by
  induction writes generalizing index nonces world with
  | nil =>
      refine .pure fun waits handles _ => ⟨[], rfl, ?_, .done⟩
      rw [List.map_eq_nil_iff.mp handles]
      rfl
  | cons write rest inductionHypothesis =>
      -- Whichever call stops it, the write is the last step and there is nothing to wait for.
      have stopped
          {submission : List Exchange}
          (sending : Sending client write submission none)
          (waits : List WaitRecord)
          (handles : waits.map (·.handle) = []) :
          ∃ steps : List StepRecord,
            submission = steps.flatMap (·.submission) ∧
              waits.flatMap (·.polls) = steps.flatMap (·.waiting) ∧
              Disciplined client .parallel (write :: rest) steps := by
        let step : StepRecord := ⟨write, submission, none⟩
        have made : step.Made client := ⟨sending, by simp [step]⟩
        obtain rfl := List.map_eq_nil_iff.mp handles
        exact ⟨[step], by simp [step], by simp [step, StepRecord.waiting],
          .ended step rest made rfl⟩
      apply (client.leads_assignNonce write nonces world).bind
      intro asked answer middle led
      cases answer with
      | error cause =>
          exact .pure fun waits handles _ => stopped (.of_stopped led.append_nil) waits handles
      | ok answer =>
          obtain ⟨assigned, after⟩ := answer
          apply (client.sending_submitWith write assigned middle).bind
          intro exchanges result behind sending
          have whole := Sending.prepend led sending
          cases result with
          | error error =>
              rw [← List.append_nil exchanges] at whole
              exact .pure fun waits handles _ => stopped whole waits handles
          | ok handle =>
              apply (inductionHypothesis (index + 1) after behind).bind
              rintro later ⟨handles, stop⟩ final continues
              refine .pure fun waits same made => ?_
              cases waits with
              | nil => cases same
              | cons wait waits =>
                  -- Waits come in the order of their handles, so the first is for this write.
                  obtain ⟨own, others⟩ := List.cons_eq_cons.mp same
                  obtain ⟨awaited, madeLater⟩ := List.forall_mem_cons.mp made
                  obtain ⟨steps, rfl, polls, disciplined⟩ := continues waits others madeLater
                  let step : StepRecord := ⟨write, asked ++ exchanges, some wait⟩
                  have madeStep : step.Made client := by
                    refine ⟨?_, by rintro _ ⟨⟩; exact awaited⟩
                    rw [← own] at whole
                    exact whole
                  exact
                    ⟨step :: steps, by simp [step], by simp [step, StepRecord.waiting, polls],
                      .next step rest steps madeStep rfl disciplined⟩

/-- All handles are awaited in order, each with a wait that is recorded. -/
theorem records_awaitAll
    (deadline index : Nat)
    (handles : List Handle)
    (world : World σ) :
    Process.Yields (client.awaitAll deadline index handles) world fun exchanges _ _ =>
      ∃ waits : List WaitRecord,
        exchanges = waits.flatMap (·.polls) ∧
          waits.map (·.handle) = handles ∧ ∀ wait ∈ waits, wait.Made client := by
  induction handles generalizing index world with
  | nil =>
      exact .pure ⟨[], rfl, rfl, by simp⟩
  | cons handle rest inductionHypothesis =>
      apply (Process.Yields.now world).bind
      rintro _ _ present ⟨rfl, rfl, rfl⟩
      apply (client.records_await handle (deadline - present.now) present).bind
      intro polls result middle made
      apply (inductionHypothesis (index + 1) middle).bind
      rintro _ steps final ⟨waits, rfl, rfl, madeLater⟩
      exact
        .pure ⟨⟨handle, polls, result⟩ :: waits, by simp, rfl, by simpa using ⟨made, madeLater⟩⟩

/-- A sequence that submits everything at once takes its writes in order. -/
theorem disciplined_submitParallel
    (timeout : Nat)
    (writes : List PreparedWrite)
    (world : World σ) :
    Process.Yields (client.submitParallel timeout writes) world fun exchanges _ _ =>
      ∃ steps,
        exchanges = SequencePolicy.parallel.trace steps ∧
          Disciplined client .parallel writes steps := by
  apply (client.disciplined_submitAll 0 [] writes world).bind
  rintro submitting ⟨handles, stopped⟩ middle continues
  apply (Process.Yields.now middle).bind
  rintro _ _ present ⟨rfl, rfl, rfl⟩
  apply (client.records_awaitAll (present.now + timeout) 0 handles present).bind
  rintro _ _ final ⟨waits, rfl, same, made⟩
  obtain ⟨steps, rfl, polls, disciplined⟩ := continues waits same made
  exact .pure ⟨steps, by simp [SequencePolicy.trace, polls], disciplined⟩

/-- A sequence takes its writes in order, up to the first step that does not go on. -/
theorem disciplined_submitSequence
    (policy : SequencePolicy)
    (timeout : Nat)
    (writes : List PreparedWrite)
    (world : World σ) :
    Process.Yields (client.submitSequence policy timeout writes) world fun exchanges _ _ =>
      ∃ steps, exchanges = policy.trace steps ∧ Disciplined client policy writes steps := by
  cases policy with
  | sequential => exact client.disciplined_submitSequential timeout 0 [] writes world
  | parallel => exact client.disciplined_submitParallel timeout writes world

/--
Whatever the ledger answers, a sequence exchanges what its steps do, in the order of its policy, and
only the last step may be one that the policy does not go on from. The steps take the first writes
in order. What is sent carries the first writes, one transaction each, and in a parallel sequence
no receipt is asked for before the last of them is sent.
-/
theorem submitSequence_discipline
    (policy : SequencePolicy)
    (timeout : Nat)
    (writes : List PreparedWrite)
    (world : World σ) :
    ∃ steps : List StepRecord,
      (client.submitSequence policy timeout writes world).2.history =
          world.history ++ policy.trace steps ∧
        (∀ step ∈ steps, step.Made client) ∧
        steps.map (·.write) = writes.take steps.length ∧
        (∀ step ∈ steps.dropLast, policy.goesOn step = true) ∧
        ((∀ step ∈ steps, policy.goesOn step = true) → steps.length = writes.length) ∧
        (∃ count,
          List.Forall₂ client.Carries (writes.take count) (sentRequests (policy.trace steps))) ∧
        (policy = .parallel →
          ∃ submitting waiting,
            policy.trace steps = submitting ++ waiting ∧
              (∀ exchange ∈ submitting, exchange.isReceiptQuery = false) ∧
              sentRequests waiting = []) := by
  obtain ⟨_, added, steps, rfl, disciplined⟩ :=
    client.disciplined_submitSequence policy timeout writes world
  have made := disciplined.made
  refine ⟨steps, added, made, disciplined.writes_eq, disciplined.goesOn_of_mem_dropLast,
    disciplined.length_eq_of_goesOn, ?_, ?_⟩
  · rw [policy.sentRequests_trace made]
    exact disciplined.carries
  · rintro rfl
    refine ⟨_, _, rfl, ?_, ?_⟩
    · intro exchange member
      obtain ⟨step, taken, inside⟩ := List.mem_flatMap.mp member
      exact (made step taken).isReceiptQuery_submission exchange inside
    · rw [sentRequests, List.filterMap_flatMap, List.flatMap_eq_nil_iff]
      exact fun step taken => (made step taken).sentRequests_waiting

end Client

end ContractGateway
