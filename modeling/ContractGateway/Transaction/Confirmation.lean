import ContractGateway.Transaction.Submission

/-!
# Waiting for confirmation

A submitted transaction is polled for its receipt until a poll settles its fate or a deadline is
reached. A failed receipt settles at once, a successful one when enough blocks hold it. Failed
polls of a transient kind only delay the next poll; any other failure ends the wait.

A wait is a sequence of polls with a decision after each one. `Watch.decide` makes that decision
from what the poll found and the time, and `Client.watch` follows it.
-/

namespace ContractGateway

/-- What is known of a submitted transaction when a wait ends. -/
inductive Outcome where
  /-- Included successfully, deep enough. -/
  | confirmed (receipt : Receipt)
  /-- Included and failed. -/
  | reverted (receipt : Receipt)
  /-- Included successfully, not yet deep enough. -/
  | pending (receipt : Receipt)
  /-- No receipt was seen. -/
  | timedOut
  deriving DecidableEq, Repr

namespace Outcome

/-- The receipt that an outcome rests on. -/
def receipt? : Outcome → Option Receipt
  | .confirmed receipt | .reverted receipt | .pending receipt => some receipt
  | .timedOut => none

/-- Whether the outcome is final. -/
def isTerminal : Outcome → Bool
  | .confirmed _ | .reverted _ => true
  | .pending _ | .timedOut => false

/-- Whether the transaction was included successfully and deep enough. -/
def isConfirmed : Outcome → Bool
  | .confirmed _ => true
  | _ => false

/-- The outcome of a wait that nothing settled. -/
def unsettled : Option Receipt → Outcome
  | some receipt => .pending receipt
  | none => .timedOut

end Outcome

/-- The outcome of a wait for a transaction. -/
structure TransactionResult where
  hash : Hash
  label : String
  outcome : Outcome
  deriving DecidableEq, Repr

namespace TransactionResult

/-- Whether the transaction is confirmed. -/
def isConfirmed (result : TransactionResult) : Bool := result.outcome.isConfirmed

/-- The receipt of a confirmed transaction, the outcome as an error otherwise. -/
def toReceipt (result : TransactionResult) : Except GatewayError Receipt :=
  match result.outcome with
  | .confirmed receipt => .ok receipt
  | .reverted _ => .error (.reverted result.hash result.label)
  | .pending _ => .error (.pending result.hash result.label)
  | .timedOut => .error (.timedOut result.hash result.label)

end TransactionResult

/-- What one poll found. -/
inductive Poll where
  | settled (outcome : Outcome)
  | included (receipt : Receipt)
  | absent
  | failed (cause : TransportError)
  deriving DecidableEq, Repr

namespace Poll

/-- What a poll found when its receipt query was answered with nothing deeper to look up. -/
def ofReceipt (required : Nat) (receipt : Receipt) : Option Poll :=
  if !receipt.succeeded then some (.settled (.reverted receipt))
  else if required = 1 then some (.settled (.confirmed receipt))
  else none

/-- What a poll found once it knows the newest block as well. -/
def ofDepth (required : Nat) (receipt : Receipt) (head : Nat) : Poll :=
  if required ≤ head + 1 - receipt.block then .settled (.confirmed receipt)
  else .included receipt

end Poll

/-- What a wait remembers between polls. -/
structure Watch where
  /-- The last successful receipt that was not deep enough. -/
  seen : Option Receipt
  /-- The number of failed polls since the last one that was answered. -/
  failures : Nat
  deriving DecidableEq, Repr

/-- What a wait does after a poll. -/
inductive WatchStep where
  | finish (outcome : Outcome)
  | pause (wake : Nat) (watch : Watch)
  deriving DecidableEq, Repr

namespace Watch

/-- A wait that has polled nothing. -/
def start : Watch := ⟨none, 0⟩

/-- The pause before the next poll: the poll interval, or the longer backoff after failures. -/
def interval (config : ConfirmationConfig) (watch : Watch) : Nat :=
  if watch.failures = 0 then config.pollInterval
  else max config.pollInterval (backoff (watch.failures - 1) config.backoffBase)

/-- Ends at the deadline, else pauses, but not beyond the deadline. -/
def proceed
    (config : ConfirmationConfig)
    (deadline now : Nat)
    (watch : Watch) : WatchStep :=
  if deadline ≤ now then .finish (.unsettled watch.seen)
  else .pause (now + min (watch.interval config) (deadline - now)) watch

/-- The decision after a poll. -/
def decide
    (config : ConfirmationConfig)
    (deadline now : Nat)
    (watch : Watch) : Poll → WatchStep
  | .settled outcome => .finish outcome
  | .included receipt => proceed config deadline now ⟨some receipt, 0⟩
  | .absent => proceed config deadline now ⟨watch.seen, 0⟩
  | .failed cause =>
      if (FailureKind.ofError cause).isTransient then
        proceed config deadline now ⟨watch.seen, watch.failures + 1⟩
      else .finish (.unsettled watch.seen)

end Watch

namespace Client

variable {σ : Type}

/--
Looks for the receipt of a transaction and, where needed, for the blocks on top of it, unless it is
cancelled.
-/
def poll
    (client : Client σ)
    (cancelAt : Option Nat)
    (hash : Hash) : OptionT (Process σ) Poll := do
  match ← (client.ledger.ask (.receipt hash)).unlessCancelled cancelAt with
  | .error cause => return .failed cause
  | .ok none => return .absent
  | .ok (some receipt) =>
      let required := max client.config.confirmation.confirmations 1
      match Poll.ofReceipt required receipt with
      | some found => return found
      | none =>
          match ← (client.ledger.ask .blockNumber).unlessCancelled cancelAt with
          | .error cause => return .failed cause
          | .ok head => return .ofDepth required receipt head

/-- Polls until the wait ends or is cancelled, at most `fuel` times. -/
def watch
    (client : Client σ)
    (hash : Hash)
    (deadline : Nat)
    (cancelAt : Option Nat) :
    (fuel : Nat) → Watch → OptionT (Process σ) Outcome
  | 0, watch => return .unsettled watch.seen
  | fuel + 1, watch => do
      let found ← client.poll cancelAt hash
      let now ← OptionT.lift Process.now
      match watch.decide client.config.confirmation deadline now found with
      | .finish outcome => return outcome
      | .pause wake next =>
          (Process.sleepUntil wake).unlessCancelled cancelAt
          client.watch hash deadline cancelAt fuel next

/--
A bound on the number of polls in a wait. Pauses of at least a millisecond reach the deadline first;
where they have no length, the wait is given some polls more than its timeout has milliseconds.
-/
def pollLimit (client : Client σ) (timeout : Nat) : Nat :=
  let interval := client.config.confirmation.pollInterval
  if interval = 0 then timeout + client.idlePolls + 1 else timeout / interval + 2

/--
Waits for a transaction until a timeout has passed or the wait is cancelled, which leaves its
outcome open. Times are milliseconds and have no largest one; a machine's clock has, and this is
its wait for the timeouts whose deadline it can represent.
-/
def awaitUnlessCancelled
    (client : Client σ)
    (handle : Handle)
    (timeout : Nat)
    (cancelAfter : Option Nat) : Process σ TransactionResult := do
  let now ← Process.now
  let outcome ←
    (client.watch handle.hash (now + timeout) (cancelAfter.map (now + ·))
      (client.pollLimit timeout) .start).run
  return ⟨handle.hash, handle.label, outcome.getD .timedOut⟩

/-- Waits for a transaction until a timeout has passed. No timeout at all polls once. -/
def await
    (client : Client σ)
    (handle : Handle)
    (timeout : Nat) : Process σ TransactionResult :=
  client.awaitUnlessCancelled handle timeout none

end Client

end ContractGateway
