import ContractGateway.Transaction.Confirmation

/-!
# Sequences of writes

A list of writes is submitted in order, either one at a time, each after the confirmation of the
one before, or all first and then awaited against one shared deadline. Submitted together, the
writes of one sender get consecutive nonces.

A failure names the first step that was not confirmed and hands back everything that reached the
ledger: the results before it, the step itself, and the submitted steps after it.
-/

namespace ContractGateway

/-- How a sequence of writes is submitted. -/
inductive SequencePolicy where
  /-- One at a time, each after the confirmation of the one before. -/
  | sequential
  /-- All at once. -/
  | parallel
  deriving DecidableEq, Repr

namespace SequencePolicy

/-- The policy that waits between writes or not. -/
def waitBetween (wait : Bool) : SequencePolicy := if wait then .sequential else .parallel

/-- The name of a policy. -/
def name : SequencePolicy → String
  | .sequential => "Sequential"
  | .parallel => "Parallel"

end SequencePolicy

/-- A step of a sequence that reached the ledger. -/
structure SubmittedStep where
  index : Nat
  handle : Handle
  result : TransactionResult
  deriving DecidableEq, Repr

/-- Why a step of a sequence failed. -/
inductive StepFailure where
  | submission (cause : GatewayError)
  | nonceLookup (cause : TransportError)
  | outcome (result : TransactionResult)
  deriving Repr

/-- The wording of a failed step. -/
def StepFailure.message : StepFailure → String
  | .submission cause => cause.message
  | .nonceLookup cause => "failed to fetch pending nonce: " ++ cause.message
  | .outcome result =>
      GatewayError.transactionText result.hash result.label ++
        match result.outcome with
        | .confirmed _ => " confirmed"
        | .reverted receipt => " reverted in block " ++ toString receipt.block
        | .pending receipt =>
            " included in block " ++ toString receipt.block ++ " but not yet confirmed"
        | .timedOut => " timed out waiting for inclusion"

/-- How a sequence failed, with everything that reached the ledger. -/
structure SequenceFailure where
  /-- The first step that was not confirmed. -/
  index : Nat
  /-- The results of the steps before it. -/
  completed : List TransactionResult
  /-- The step itself, when it was submitted. -/
  failed : Option SubmittedStep
  /-- The submitted steps after it. -/
  unreported : List SubmittedStep
  cause : StepFailure
  deriving Repr

/-- The wording of a failed sequence. -/
def SequenceFailure.message (failure : SequenceFailure) : String :=
  "sequence step " ++ toString failure.index ++ " failed: " ++ failure.cause.message

/-- The next nonce of each sender seen so far, the latest entry of a sender first. -/
abbrev NonceTable := List (Address × Nat)

/-- The submitted steps up to the first one that is not confirmed, that step, and the rest. -/
def splitAtUnconfirmed :
    List SubmittedStep →
      List SubmittedStep × Option (SubmittedStep × List SubmittedStep)
  | [] => ([], none)
  | step :: rest =>
      if step.result.isConfirmed then
        let (confirmed, found) := splitAtUnconfirmed rest
        (step :: confirmed, found)
      else ([], some (step, rest))

/--
The result of a sequence whose submitted steps were all awaited. A step that is not confirmed
comes before a step that could not be submitted.
-/
def reportSteps
    (steps : List SubmittedStep)
    (stopped : Option (Nat × StepFailure)) : Except SequenceFailure (List TransactionResult) :=
  let (confirmed, unconfirmed) := splitAtUnconfirmed steps
  let completed := confirmed.map (·.result)
  match unconfirmed with
  | some (step, rest) => .error ⟨step.index, completed, some step, rest, .outcome step.result⟩
  | none =>
      match stopped with
      | some (index, cause) => .error ⟨index, completed, none, [], cause⟩
      | none => .ok completed

namespace Client

variable {σ : Type}

/-- Submits writes one at a time, each after the confirmation of the one before. -/
def submitSequential
    (client : Client σ)
    (timeout : Nat) :
    (index : Nat) → (completed : List TransactionResult) → List PreparedWrite →
      Process σ (Except SequenceFailure (List TransactionResult))
  | _, completed, [] => return .ok completed
  | index, completed, write :: rest => do
      match ← client.submit write with
      | .error cause => return .error ⟨index, completed, none, [], .submission cause⟩
      | .ok handle =>
          let result ← client.await handle timeout
          if result.isConfirmed then
            client.submitSequential timeout (index + 1) (completed ++ [result]) rest
          else
            return .error
              ⟨index, completed, some ⟨index, handle, result⟩, [], .outcome result⟩

/--
The nonce that a write is given: none when it carries one or has no sender, else the next one of
its sender, which is looked up for the first such write. Nonces are numbers without a bound. They
stay below the 64 bits that a transaction has for them as long as the nonce that was looked up lies
further below that bound than the sequence has writes.
-/
def assignNonce
    (client : Client σ)
    (write : PreparedWrite)
    (nonces : NonceTable) : Process σ (Except TransportError (Option Nat × NonceTable)) := do
  match write.options.nonce, client.sender write with
  | none, some sender =>
      match nonces.lookup sender with
      | some nonce => return .ok (some nonce, (sender, nonce + 1) :: nonces)
      | none =>
          match ← client.ledger.ask (.pendingNonce sender) with
          | .error cause => return .error cause
          | .ok nonce => return .ok (some nonce, (sender, nonce + 1) :: nonces)
  | _, _ => return .ok (none, nonces)

/-- Submits writes in order until one fails; gives the handles and the failure, if any. -/
def submitAll
    (client : Client σ) :
    (index : Nat) → NonceTable → List PreparedWrite →
      Process σ (List Handle × Option (Nat × StepFailure))
  | _, _, [] => return ([], none)
  | index, nonces, write :: rest => do
      match ← client.assignNonce write nonces with
      | .error cause => return ([], some (index, .nonceLookup cause))
      | .ok (nonce, nonces) =>
          match ← client.submitWith write nonce with
          | .error cause => return ([], some (index, .submission cause))
          | .ok handle =>
              let (handles, stopped) ← client.submitAll (index + 1) nonces rest
              return (handle :: handles, stopped)

/-- Awaits handles in order, each for the time that is left until the deadline. -/
def awaitAll
    (client : Client σ)
    (deadline : Nat) :
    (index : Nat) → List Handle → Process σ (List SubmittedStep)
  | _, [] => return []
  | index, handle :: rest => do
      let result ← client.await handle (deadline - (← Process.now))
      let steps ← client.awaitAll deadline (index + 1) rest
      return ⟨index, handle, result⟩ :: steps

/-- Submits all writes, then awaits them against one deadline that starts after the last send. -/
def submitParallel
    (client : Client σ)
    (timeout : Nat)
    (writes : List PreparedWrite) :
    Process σ (Except SequenceFailure (List TransactionResult)) := do
  let (handles, stopped) ← client.submitAll 0 [] writes
  let deadline := (← Process.now) + timeout
  let steps ← client.awaitAll deadline 0 handles
  return reportSteps steps stopped

/-- Submits a sequence of writes and waits for every one that reached the ledger. -/
def submitSequence
    (client : Client σ)
    (policy : SequencePolicy)
    (timeout : Nat)
    (writes : List PreparedWrite) :
    Process σ (Except SequenceFailure (List TransactionResult)) :=
  match policy with
  | .sequential => client.submitSequential timeout 0 [] writes
  | .parallel => client.submitParallel timeout writes

end Client

end ContractGateway
