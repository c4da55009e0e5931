import ContractGateway.Proofs.Transaction.Submissions

/-!
# What a sequence reports

Every transaction that a sequence brings to the ledger is reported once and in order, however the
sequence ends. `Sent` ties the accepted sends of a run to the handles of its first writes,
`Client.Awaits` ties the handles to the results of the waits that the run made for them, and
`Reports` says how an answer accounts for the steps that come out of this.
-/

namespace ContractGateway

variable {σ : Type}

/--
The accepted sends are those of the first of the writes, one each, and the handles are theirs.
-/
inductive Sent (client : Client σ) :
    List PreparedWrite → List (TransactionRequest × Hash) → List Handle → Prop where
  | done (unsent : List PreparedWrite) : Sent client unsent [] []
  | next
      (write : PreparedWrite)
      (rest : List PreparedWrite)
      (assigned : Option Nat)
      (limit : Nat)
      (pricing : Pricing)
      (hash : Hash)
      (accepted : List (TransactionRequest × Hash))
      (handles : List Handle)
      (sent : Sent client rest accepted handles) :
      Sent client (write :: rest)
        ((client.outgoing write assigned limit pricing, hash) :: accepted)
        (client.issued write assigned hash :: handles)

/-- An answer accounts for the submitted steps of a sequence of so many writes. -/
inductive Reports (count : Nat) (steps : List SubmittedStep) :
    Except SequenceFailure (List TransactionResult) → Prop where
  /-- All writes were submitted and confirmed. -/
  | confirmed
      (all : steps.length = count)
      (confirmed : ∀ step ∈ steps, step.result.isConfirmed = true) :
      Reports count steps (.ok (steps.map (·.result)))
  /-- The step at the index is the first that was not submitted or not confirmed. -/
  | failed
      (index : Nat)
      (cause : StepFailure)
      (within : index < count)
      (submitted : index ≤ steps.length)
      (confirmed : ∀ step ∈ steps.take index, step.result.isConfirmed = true)
      (unconfirmed : ∀ step, steps[index]? = some step → step.result.isConfirmed = false) :
      Reports count steps
        (.error
          { index := index
            completed := (steps.take index).map (·.result)
            failed := steps[index]?
            unreported := steps.drop (index + 1)
            cause := cause })

namespace Reports

variable {count : Nat} {done : List SubmittedStep} {cause : StepFailure}

/-- A step that was not submitted is reported behind those that were confirmed. -/
theorem unsubmitted
    (within : done.length < count)
    (confirmed : ∀ step ∈ done, step.result.isConfirmed = true) :
    Reports count done
      (.error ⟨done.length, done.map (·.result), none, [], cause⟩) := by
  have report : Reports count done _ :=
    .failed done.length cause within (Nat.le_refl _) (by simpa using confirmed) (by simp)
  simpa [List.drop_eq_nil_of_le (Nat.le_succ done.length)] using report

/-- A step that was not confirmed is reported between those before and those behind it. -/
theorem unconfirmed
    {step : SubmittedStep}
    {rest : List SubmittedStep}
    (within : done.length < count)
    (confirmed : ∀ step ∈ done, step.result.isConfirmed = true)
    (notConfirmed : step.result.isConfirmed = false) :
    Reports count (done ++ step :: rest)
      (.error ⟨done.length, done.map (·.result), some step, rest, cause⟩) := by
  have report : Reports count (done ++ step :: rest) _ :=
    .failed done.length cause within (by simp) (by simpa using confirmed)
      (by simpa using notConfirmed)
  simpa using report

end Reports

/-- What `splitAtUnconfirmed` makes of steps. -/
theorem splitAtUnconfirmed_spec (steps : List SubmittedStep) :
    (∀ step ∈ (splitAtUnconfirmed steps).1, step.result.isConfirmed = true) ∧
      match (splitAtUnconfirmed steps).2 with
      | none => steps = (splitAtUnconfirmed steps).1
      | some (step, rest) =>
          steps = (splitAtUnconfirmed steps).1 ++ step :: rest ∧
            step.result.isConfirmed = false := by
  induction steps with
  | nil =>
      simp [splitAtUnconfirmed]
  | cons step rest inductionHypothesis =>
      by_cases confirmed : step.result.isConfirmed = true
      · obtain ⟨confirmedBehind, split⟩ := inductionHypothesis
        simp only [splitAtUnconfirmed, confirmed, if_true]
        refine ⟨?_, ?_⟩
        · simpa [confirmed] using confirmedBehind
        · cases found : (splitAtUnconfirmed rest).2 with
          | none =>
              simpa [found] using split
          | some unconfirmed =>
              simpa [found] using split
      · simp [splitAtUnconfirmed, confirmed]

/-- Submission stopped at the first write without a handle, or came to the end of the writes. -/
def StoppedBehind
    (index submitted count : Nat) : Option (Nat × StepFailure) → Prop
  | none => submitted = count
  | some (place, _) => place = index + submitted ∧ submitted < count

namespace StoppedBehind

variable {index submitted count : Nat} {stopped : Option (Nat × StepFailure)}

theorem submitted_le (behind : StoppedBehind index submitted count stopped) :
    submitted ≤ count := by
  cases stopped with
  | none =>
      exact Nat.le_of_eq behind
  | some failure =>
      exact Nat.le_of_lt behind.2

/-- One more write is submitted in front. -/
theorem next (behind : StoppedBehind (index + 1) submitted count stopped) :
    StoppedBehind index (submitted + 1) (count + 1) stopped := by
  cases stopped with
  | none =>
      exact congrArg (· + 1) behind
  | some failure =>
      obtain ⟨place, fewer⟩ := behind
      exact ⟨by omega, by omega⟩

end StoppedBehind

namespace Submissions

variable
  {client : Client σ} {index : Nat} {nonces : NonceTable} {writes : List PreparedWrite}
  {exchanges : List Exchange} {handles : List Handle} {stopped : Option (Nat × StepFailure)}

/-- The handles of a run are those of its accepted sends. -/
theorem sent (submissions : Submissions client index nonces writes exchanges handles stopped) :
    Sent client writes (acceptedSends exchanges) handles := by
  induction submissions with
  | done index nonces =>
      exact .done []
  | unassigned index nonces write rest asked cause assignment =>
      rw [acceptedSends_eq_nil_of_sentRequests assignment.sentRequests_eq_nil]
      exact .done _
  | unsubmitted index nonces after write rest asked exchanges assigned error assignment attempt =>
      rw [acceptedSends_append, attempt.acceptedSends_of_error,
        acceptedSends_eq_nil_of_sentRequests assignment.sentRequests_eq_nil]
      exact .done _
  | next index nonces after write rest asked exchanges later assigned handle handles stopped
      assignment attempt submissions inductionHypothesis =>
      obtain ⟨limit, pricing, hash, accepted, rfl⟩ := attempt.acceptedSends_of_ok
      rw [acceptedSends_append, acceptedSends_append, accepted,
        acceptedSends_eq_nil_of_sentRequests assignment.sentRequests_eq_nil]
      exact .next write rest assigned limit pricing hash _ handles inductionHypothesis

/-- A run stops where its handles end. -/
theorem stoppedBehind
    (submissions : Submissions client index nonces writes exchanges handles stopped) :
    StoppedBehind index handles.length writes.length stopped := by
  induction submissions with
  | done index nonces =>
      rfl
  | unassigned index nonces write rest asked cause assignment =>
      exact ⟨rfl, Nat.succ_pos _⟩
  | unsubmitted index nonces after write rest asked exchanges assigned error assignment attempt =>
      exact ⟨rfl, Nat.succ_pos _⟩
  | next index nonces after write rest asked exchanges later assigned handle handles stopped
      assignment attempt submissions inductionHypothesis =>
      exact inductionHypothesis.next

end Submissions

theorem Awaited.index_eq
    {client : Client σ}
    {opening : Nat → World σ → World σ}
    {allowance : World σ → Nat}
    {index : Nat}
    {world : World σ}
    {before behind : List SubmittedStep}
    {step : SubmittedStep}
    (awaited : Awaited client opening allowance index world (before ++ step :: behind)) :
    step.index = index + before.length := by
  induction before generalizing index world with
  | nil =>
      cases awaited with
      | next => rfl
  | cons earlier before inductionHypothesis =>
      cases awaited with
      | next index world middle handle result steps waited hash label awaited =>
          rw [inductionHypothesis awaited, List.length_cons]
          omega

/-- `reportSteps` accounts for awaited steps. -/
theorem reports_reportSteps
    {client : Client σ}
    {opening : Nat → World σ → World σ}
    {allowance : World σ → Nat}
    {world : World σ}
    {count : Nat}
    {steps : List SubmittedStep}
    {stopped : Option (Nat × StepFailure)}
    (awaited : Awaited client opening allowance 0 world steps)
    (behind : StoppedBehind 0 steps.length count stopped) :
    Reports count steps (reportSteps steps stopped) := by
  obtain ⟨confirmed, split⟩ := splitAtUnconfirmed_spec steps
  rw [reportSteps]
  generalize splitAtUnconfirmed steps = parts at confirmed split ⊢
  obtain ⟨done, found⟩ := parts
  dsimp only at confirmed split
  cases found with
  | some found =>
      obtain ⟨step, rest⟩ := found
      obtain ⟨rfl, unconfirmed⟩ := split
      have within := behind.submitted_le
      have index := awaited.index_eq
      rw [List.length_append, List.length_cons] at within
      simp only [index, Nat.zero_add]
      exact .unconfirmed (by omega) confirmed unconfirmed
  | none =>
      obtain rfl : steps = done := split
      cases stopped with
      | none =>
          exact .confirmed behind confirmed
      | some failure =>
          obtain ⟨place, cause⟩ := failure
          obtain ⟨rfl, within⟩ := behind
          simp only [Nat.zero_add]
          exact .unsubmitted within confirmed

namespace Client

variable (client : Client σ)

/-- A sequence that submits everything at once reports all that it submitted. -/
theorem reports_submitParallel
    (timeout : Nat)
    (writes : List PreparedWrite)
    (world : World σ) :
    Process.Yields (client.submitParallel timeout writes) world fun exchanges answer _ =>
      ∃ steps : List SubmittedStep,
        Sent client writes (acceptedSends exchanges) (steps.map (·.handle)) ∧
          client.AwaitsTogether timeout (client.submitAll 0 [] writes world).2 steps ∧
            Reports writes.length steps answer := by
  apply (client.yields_submitParallel timeout writes world).weaken
  rintro _ _ final ⟨submitting, waiting, steps, stopped, rfl, rfl, submissions, quiet, awaited⟩
  have behind := submissions.stoppedBehind
  rw [List.length_map] at behind
  refine ⟨steps, ?_, awaited, reports_reportSteps awaited behind⟩
  simpa [quiet.acceptedSends_eq_nil] using submissions.sent

/-- The world behind the submission of the write at an index. -/
def behindSubmission
    (writes : List PreparedWrite)
    (index : Nat)
    (world : World σ) : World σ :=
  match writes[index]? with
  | none => world
  | some write => (client.submit write world).2

/--
A sequence that waits between its writes reports all that it submitted behind the steps that it has
done.
-/
theorem reports_submitSequential
    (timeout : Nat)
    (earlier : List PreparedWrite)
    (done : List SubmittedStep)
    (sameLength : done.length = earlier.length)
    (confirmed : ∀ step ∈ done, step.result.isConfirmed = true)
    (writes : List PreparedWrite)
    (world : World σ) :
    Process.Yields
      (client.submitSequential timeout done.length (done.map (·.result)) writes) world
      fun exchanges answer _ =>
        ∃ steps : List SubmittedStep,
          Sent client writes (acceptedSends exchanges) (steps.map (·.handle)) ∧
            Awaited client (client.behindSubmission (earlier ++ writes)) (fun _ => timeout)
              done.length world steps ∧
              Reports (done.length + writes.length) (done ++ steps) answer := by
  induction writes generalizing earlier done world with
  | nil =>
      refine .pure ⟨[], .done [], .done _ _, ?_⟩
      simpa using Reports.confirmed rfl confirmed
  | cons write rest inductionHypothesis =>
      apply (client.yields_submitWith write none world).run_eq.bind
      rintro submitting answer middle ⟨submitted, attempt⟩
      have opened :
          client.behindSubmission (earlier ++ write :: rest) done.length world = middle := by
        have found : (earlier ++ write :: rest)[done.length]? = some write := by
          simp [sameLength]
        rw [behindSubmission, found]
        exact congrArg Prod.snd submitted
      cases answer with
      | error error =>
          refine .pure ⟨[], ?_, .done _ _, ?_⟩
          · rw [List.append_nil, attempt.acceptedSends_of_error]
            exact .done _
          · rw [List.append_nil]
            exact .unsubmitted (by simp) confirmed
      | ok handle =>
          obtain ⟨limit, pricing, hash, accepted, rfl⟩ := attempt.acceptedSends_of_ok
          apply (client.yields_awaitQuietly (client.issued write none hash) timeout middle).bind
          rintro waiting result behind ⟨waited, quiet, resultHash, label⟩
          rw [← opened] at waited
          let step : SubmittedStep := ⟨done.length, client.issued write none hash, result⟩
          have acceptedFirst (more : List Exchange) :
              acceptedSends (submitting ++ (waiting ++ more)) =
                (client.outgoing write none limit pricing, hash) :: acceptedSends more := by
            simp [accepted, quiet.acceptedSends_eq_nil]
          cases isConfirmed : result.isConfirmed with
          | false =>
              refine .pure ⟨[step], ?_, ?_, ?_⟩
              · rw [acceptedFirst]
                exact .next write rest none limit pricing hash [] [] (.done rest)
              · exact .next _ world behind _ result [] waited resultHash label (.done _ _)
              · exact .unconfirmed (by simp) confirmed isConfirmed
          | true =>
              have confirmedSoFar :
                  ∀ earlier ∈ done ++ [step], earlier.result.isConfirmed = true := by
                simpa [or_imp, forall_and, step, isConfirmed] using confirmed
              have later :=
                inductionHypothesis (earlier ++ [write]) (done ++ [step]) (by simp [sameLength])
                  confirmedSoFar behind
              rw [List.length_append, List.map_append, List.append_assoc] at later
              apply later.weaken
              rintro more answer final ⟨steps, sent, awaited, reports⟩
              refine ⟨step :: steps, ?_, ?_, ?_⟩
              · rw [acceptedFirst]
                exact .next write rest none limit pricing hash _ _ sent
              · exact .next _ world behind _ result steps waited resultHash label awaited
              · simpa [Nat.add_assoc, Nat.add_comm 1] using reports

/--
The steps hold what the waits of a sequence gave that began in a world. Under the one policy each
wait begins behind the submission of its write and has all the time. Under the other the first wait
begins behind the last submission, and all of them share a deadline.
-/
def Awaits
    (policy : SequencePolicy)
    (timeout : Nat)
    (writes : List PreparedWrite)
    (world : World σ)
    (steps : List SubmittedStep) : Prop :=
  match policy with
  | .sequential => Awaited client (client.behindSubmission writes) (fun _ => timeout) 0 world steps
  | .parallel => client.AwaitsTogether timeout (client.submitAll 0 [] writes world).2 steps

/--
Whatever the ledger answers, the transactions that it took during a sequence are those of the first
writes, and the answer accounts for each of them once and in order.
-/
theorem submitSequence_reports
    (policy : SequencePolicy)
    (timeout : Nat)
    (writes : List PreparedWrite)
    (world : World σ) :
    ∃ (exchanges : List Exchange) (steps : List SubmittedStep),
      (client.submitSequence policy timeout writes world).2.history =
          world.history ++ exchanges ∧
        Sent client writes (acceptedSends exchanges) (steps.map (·.handle)) ∧
        client.Awaits policy timeout writes world steps ∧
        Reports writes.length steps (client.submitSequence policy timeout writes world).1 := by
  cases policy with
  | sequential =>
      obtain ⟨exchanges, added, steps, sent, awaited, reports⟩ :=
        client.reports_submitSequential timeout [] [] rfl (by simp) writes world
      rw [List.length_nil, Nat.zero_add, List.nil_append] at reports
      exact ⟨exchanges, steps, added, sent, awaited, reports⟩
  | parallel =>
      obtain ⟨exchanges, added, steps, sent, awaited, reports⟩ :=
        client.reports_submitParallel timeout writes world
      exact ⟨exchanges, steps, added, sent, awaited, reports⟩

end Client

/-- A ledger that numbers the transactions it takes and includes them at once; the second fails. -/
def moodyLedger : Ledger Nat where
  defaultSender := some 0xa1
  answer
    | .pendingNonce _, _, taken => (.ok 7, taken)
    | .send _, _, taken => (.ok (BitVec.ofNat 256 (taken + 1)), taken + 1)
    | .receipt hash, _, taken => (.ok (some ⟨hash, 101, 21000, 1, hash != 2⟩), taken)
    | _, _, taken => (.error .nullResponse, taken)

/-- Three writes that are submitted together reach it; the report stops at the second of them. -/
theorem moodyLedger_reports :
    let client : Client Nat := { ledger := moodyLedger, config := {} }
    let write : PreparedWrite :=
      { target := 0x10
        label := "write"
        calldata := []
        options := { gasLimit := some 90000, fees := .fixed (.legacy 1) } }
    let writes := [write, write, write]
    let run := client.submitSequence .parallel 1000 writes (World.start 0)
    (∃ failure : SequenceFailure,
      run.1 = .error failure ∧
        failure.index = 1 ∧
        failure.completed.map (·.hash) = [1] ∧
        failure.failed.map (·.handle.hash) = some 2 ∧
        failure.unreported.map (·.handle.hash) = [3]) ∧
      ∃ steps : List SubmittedStep,
        Sent client writes (acceptedSends run.2.history) (steps.map (·.handle)) ∧
          client.Awaits .parallel 1000 writes (World.start 0) steps ∧
          Reports 3 steps run.1 := by
  intro client write writes run
  obtain ⟨exchanges, steps, added, sent, awaited, reports⟩ :=
    client.submitSequence_reports .parallel 1000 writes (World.start 0)
  refine ⟨⟨_, rfl, rfl, rfl, rfl, rfl⟩, steps, ?_, awaited, reports⟩
  rwa [added]

end ContractGateway
