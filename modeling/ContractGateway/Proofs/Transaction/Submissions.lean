import ContractGateway.Proofs.Transaction.Waiting
import ContractGateway.Transaction.Sequence

/-!
# What submitting many writes exchanges

Writes that are submitted together are given nonces on the way. `Assignment` lists how a write gets
its nonce, with what is exchanged for it, and `Submissions` is a whole run: an assignment and an
attempt for each write, up to the first that fails. `Client.yields_submitAll` says that every run is
of this form, whatever the ledger answers.

The handles are awaited behind the last submission, and `Client.yields_submitParallel` says that
nothing is sent any more. `Awaited` ties each step to its own wait: the waits of a run follow one
another from world to world.
-/

namespace ContractGateway

variable {σ : Type}

/-- How a write is given a nonce, what is exchanged for it, and the table behind it. -/
inductive Assignment
    (client : Client σ)
    (write : PreparedWrite)
    (nonces : NonceTable) :
    List Exchange → Except TransportError (Option Nat × NonceTable) → Prop where
  /-- The write carries a nonce. -/
  | carried
      (nonce : Nat)
      (carries : write.options.nonce = some nonce) :
      Assignment client write nonces [] (.ok (none, nonces))
  /-- The write has no sender. -/
  | senderless
      (unset : write.options.nonce = none)
      (noSender : client.sender write = none) :
      Assignment client write nonces [] (.ok (none, nonces))
  /-- The sender has been given nonces before. -/
  | continued
      (sender : Address)
      (nonce : Nat)
      (unset : write.options.nonce = none)
      (sends : client.sender write = some sender)
      (known : nonces.lookup sender = some nonce) :
      Assignment client write nonces [] (.ok (some nonce, (sender, nonce + 1) :: nonces))
  /-- The first nonce of the sender is looked up. -/
  | begun
      (sender : Address)
      (time nonce : Nat)
      (unset : write.options.nonce = none)
      (sends : client.sender write = some sender)
      (unknown : nonces.lookup sender = none) :
      Assignment client write nonces
        [⟨time, .pendingNonce sender, .ok nonce⟩]
        (.ok (some nonce, (sender, nonce + 1) :: nonces))
  /-- The first nonce of the sender cannot be looked up. -/
  | failed
      (sender : Address)
      (time : Nat)
      (cause : TransportError)
      (unset : write.options.nonce = none)
      (sends : client.sender write = some sender)
      (unknown : nonces.lookup sender = none) :
      Assignment client write nonces
        [⟨time, .pendingNonce sender, .error cause⟩]
        (.error cause)

theorem Assignment.sentRequests_eq_nil
    {client : Client σ}
    {write : PreparedWrite}
    {nonces : NonceTable}
    {exchanges : List Exchange}
    {result : Except TransportError (Option Nat × NonceTable)}
    (assignment : Assignment client write nonces exchanges result) :
    sentRequests exchanges = [] := by
  cases assignment <;> rfl

/-- A run that submits writes from an index on: its exchanges, its handles, and where it stopped. -/
inductive Submissions (client : Client σ) :
    (index : Nat) → NonceTable → List PreparedWrite →
      List Exchange → List Handle → Option (Nat × StepFailure) → Prop where
  | done
      (index : Nat)
      (nonces : NonceTable) :
      Submissions client index nonces [] [] [] none
  | unassigned
      (index : Nat)
      (nonces : NonceTable)
      (write : PreparedWrite)
      (rest : List PreparedWrite)
      (asked : List Exchange)
      (cause : TransportError)
      (assignment : Assignment client write nonces asked (.error cause)) :
      Submissions client index nonces (write :: rest) asked [] (some (index, .nonceLookup cause))
  | unsubmitted
      (index : Nat)
      (nonces after : NonceTable)
      (write : PreparedWrite)
      (rest : List PreparedWrite)
      (asked exchanges : List Exchange)
      (assigned : Option Nat)
      (error : GatewayError)
      (assignment : Assignment client write nonces asked (.ok (assigned, after)))
      (attempt : Attempt client write assigned exchanges (.error error)) :
      Submissions client index nonces (write :: rest) (asked ++ exchanges) []
        (some (index, .submission error))
  | next
      (index : Nat)
      (nonces after : NonceTable)
      (write : PreparedWrite)
      (rest : List PreparedWrite)
      (asked exchanges later : List Exchange)
      (assigned : Option Nat)
      (handle : Handle)
      (handles : List Handle)
      (stopped : Option (Nat × StepFailure))
      (assignment : Assignment client write nonces asked (.ok (assigned, after)))
      (attempt : Attempt client write assigned exchanges (.ok handle))
      (submissions : Submissions client (index + 1) after rest later handles stopped) :
      Submissions client index nonces (write :: rest) (asked ++ exchanges ++ later)
        (handle :: handles) stopped

/-- The time that is left in a world until a deadline. -/
def World.timeUntil (deadline : Nat) (world : World σ) : Nat := deadline - world.now

/--
The steps are numbered from an index on, and each holds what the wait for its handle gave. The wait
begins where `opening` leads from the world that the wait before it left, for the time that
`allowance` gives it there.
-/
inductive Awaited
    (client : Client σ)
    (opening : (index : Nat) → World σ → World σ)
    (allowance : World σ → Nat) :
    (index : Nat) → World σ → List SubmittedStep → Prop where
  | done
      (index : Nat)
      (world : World σ) :
      Awaited client opening allowance index world []
  | next
      (index : Nat)
      (world behind : World σ)
      (handle : Handle)
      (result : TransactionResult)
      (steps : List SubmittedStep)
      (waited :
        client.await handle (allowance (opening index world)) (opening index world) =
          (result, behind))
      (hash : result.hash = handle.hash)
      (label : result.label = handle.label)
      (awaited : Awaited client opening allowance (index + 1) behind steps) :
      Awaited client opening allowance index world (⟨index, handle, result⟩ :: steps)

namespace Client

variable (client : Client σ)

/-- A nonce is assigned in one of these ways. -/
theorem yields_assignNonce
    (write : PreparedWrite)
    (nonces : NonceTable)
    (world : World σ) :
    Process.Yields (client.assignNonce write nonces) world fun exchanges result _ =>
      Assignment client write nonces exchanges result := by
  unfold assignNonce
  cases carries : write.options.nonce with
  | some nonce =>
      exact .pure (.carried nonce carries)
  | none =>
      cases sends : client.sender write with
      | none =>
          exact .pure (.senderless carries sends)
      | some sender =>
          cases known : nonces.lookup sender with
          | some nonce =>
              simp only [known]
              exact .pure (.continued sender nonce carries sends known)
          | none =>
              simp only [known]
              apply (Process.Yields.ask client.ledger (.pendingNonce sender) world).bind
              rintro asked answer middle ⟨rfl, -, -⟩
              cases answer with
              | error cause =>
                  exact .pure (.failed sender world.now cause carries sends known)
              | ok nonce =>
                  exact .pure (.begun sender world.now nonce carries sends known)

/-- Submitting writes together is a run of assignments and attempts. -/
theorem yields_submitAll
    (index : Nat)
    (nonces : NonceTable)
    (writes : List PreparedWrite)
    (world : World σ) :
    Process.Yields (client.submitAll index nonces writes) world fun exchanges result _ =>
      Submissions client index nonces writes exchanges result.1 result.2 := by
  induction writes generalizing index nonces world with
  | nil =>
      exact .pure (.done index nonces)
  | cons write rest inductionHypothesis =>
      apply (client.yields_assignNonce write nonces world).bind
      intro asked answer middle assignment
      cases answer with
      | error cause =>
          have stopped :=
            Submissions.unassigned index nonces write rest asked cause assignment
          exact .pure (by simpa using stopped)
      | ok answer =>
          obtain ⟨assigned, after⟩ := answer
          apply (client.yields_submitWith write assigned middle).bind
          intro exchanges result behind attempt
          cases result with
          | error error =>
              have stopped :=
                Submissions.unsubmitted index nonces after write rest asked exchanges assigned
                  error assignment attempt
              exact .pure (by simpa using stopped)
          | ok handle =>
              apply (inductionHypothesis (index + 1) after behind).bind
              rintro later ⟨handles, stopped⟩ final submissions
              have onwards :=
                Submissions.next index nonces after write rest asked exchanges later assigned
                  handle handles stopped assignment attempt submissions
              exact .pure (by simpa using onwards)

/-- Waiting for a handle sends nothing and gives a result about the handle. -/
theorem yields_awaitQuietly
    (handle : Handle)
    (timeout : Nat)
    (world : World σ) :
    Process.Yields (client.await handle timeout) world fun exchanges result behind =>
      client.await handle timeout world = (result, behind) ∧
        Quiet exchanges ∧ result.hash = handle.hash ∧ result.label = handle.label := by
  apply (client.yields_await handle timeout world).run_eq.weaken
  rintro exchanges result behind ⟨waited, hash, label, polls, rfl, course⟩
  exact ⟨waited, course.quiet, hash, label⟩

/-- All handles are awaited, one right behind the other, and nothing is sent meanwhile. -/
theorem yields_awaitAll
    (deadline index : Nat)
    (handles : List Handle)
    (world : World σ) :
    Process.Yields (client.awaitAll deadline index handles) world fun exchanges steps _ =>
      Quiet exchanges ∧
        steps.map (·.handle) = handles ∧
          Awaited client (fun _ => id) (World.timeUntil deadline) index world steps := by
  induction handles generalizing index world with
  | nil =>
      exact .pure ⟨.nil, rfl, .done index world⟩
  | cons handle rest inductionHypothesis =>
      apply (Process.Yields.now world).bind
      rintro _ _ present ⟨rfl, rfl, rfl⟩
      apply (client.yields_awaitQuietly handle (deadline - present.now) present).bind
      rintro waiting result middle ⟨waited, waitQuiet, hash, label⟩
      apply (inductionHypothesis (index + 1) middle).bind
      rintro later steps final ⟨restQuiet, rfl, awaited⟩
      refine .pure ⟨?_, rfl, ?_⟩
      · exact waitQuiet.append (restQuiet.append .nil)
      · exact .next index present middle handle result steps waited hash label awaited

/--
The steps hold what waits gave that began in a world, one right behind the other, each for the time
that was left until one deadline.
-/
def AwaitsTogether (timeout : Nat) (world : World σ) (steps : List SubmittedStep) : Prop :=
  Awaited client (fun _ => id) (World.timeUntil (world.now + timeout)) 0 world steps

/--
A sequence that submits everything at once is a run of submissions, and then only waits, from the
world behind the last submission on and until one deadline.
-/
theorem yields_submitParallel
    (timeout : Nat)
    (writes : List PreparedWrite)
    (world : World σ) :
    Process.Yields (client.submitParallel timeout writes) world fun exchanges answer _ =>
      ∃ submitting waiting steps stopped,
        exchanges = submitting ++ waiting ∧
          answer = reportSteps steps stopped ∧
            Submissions client 0 [] writes submitting (steps.map (·.handle)) stopped ∧
              Quiet waiting ∧
                client.AwaitsTogether timeout (client.submitAll 0 [] writes world).2 steps := by
  apply (client.yields_submitAll 0 [] writes world).run_eq.bind
  rintro submitting ⟨handles, stopped⟩ middle ⟨submitted, submissions⟩
  rw [submitted]
  apply (Process.Yields.now middle).bind
  rintro _ _ present ⟨rfl, rfl, rfl⟩
  apply (client.yields_awaitAll (present.now + timeout) 0 handles present).bind
  rintro waiting steps final ⟨quiet, rfl, awaited⟩
  exact .pure ⟨submitting, waiting, steps, stopped, by simp, rfl, submissions, quiet, awaited⟩

end Client

end ContractGateway
