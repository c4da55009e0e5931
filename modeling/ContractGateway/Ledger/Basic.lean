import ContractGateway.Gas
import ContractGateway.Transport.Error

/-!
# Ledgers

A ledger answers calls, and every answer may depend on the time and on all that happened before.
`LedgerCall` lists the calls, `LedgerCall.Answer` gives the type of each one's answer, and
`Ledger σ` is any machine with states `σ` that answers them or fails, at once or after a while.

Everything that talks to a ledger runs in a `World`: the present time, the state of the ledger,
and the exchanges made so far. `World.history` is the view of it that statements about traffic
are made on.
-/

namespace ContractGateway

/-- One read of a round trip. -/
structure ReadCall where
  target : Address
  calldata : Bytes
  deriving DecidableEq, Repr

/-- How one read of a round trip ended: its return data or its revert data. -/
inductive CallOutcome where
  | success (data : Bytes)
  | failure (data : Bytes)
  deriving DecidableEq, Repr

/-- A transaction as it is handed to a ledger. What is left open is up to the ledger. -/
structure TransactionRequest where
  target : Option Address := none
  input : Option Bytes := none
  value : Option Word := none
  sender : Option Address := none
  nonce : Option Nat := none
  gasLimit : Option Nat := none
  fees : Option Pricing := none
  deriving DecidableEq, Repr

/-- The proof that a transaction was included in a block. -/
structure Receipt where
  hash : Hash
  block : Nat
  gasUsed : Nat
  price : Nat
  succeeded : Bool
  deriving DecidableEq, Repr

/-- A call to a ledger. -/
inductive LedgerCall where
  /-- The number of the newest block. -/
  | blockNumber
  /-- One round trip of reads at a block. -/
  | aggregate (calls : List ReadCall) (block : Nat)
  /-- A dry run. -/
  | estimateGas (request : TransactionRequest)
  | estimateFees
  | gasPrice
  /-- The next nonce of an account, pending transactions counted. -/
  | pendingNonce (account : Address)
  | send (request : TransactionRequest)
  /-- The receipt of a transaction, once it is included. -/
  | receipt (hash : Hash)
  deriving DecidableEq, Repr

namespace LedgerCall

/-- What a call is answered with. -/
@[reducible] def Answer : LedgerCall → Type
  | .blockNumber => Nat
  | .aggregate _ _ => List CallOutcome
  | .estimateGas _ => Nat
  | .estimateFees => FeeEstimate
  | .gasPrice => Nat
  | .pendingNonce _ => Nat
  | .send _ => Hash
  | .receipt _ => Option Receipt

end LedgerCall

/-- A call with its answer or failure, and the time it was made. -/
structure Exchange where
  time : Nat
  call : LedgerCall
  answer : Except TransportError call.Answer

/-- A ledger with states `σ`. -/
structure Ledger (σ : Type) where
  /-- The sender of transactions that name none. -/
  defaultSender : Option Address
  /-- The answer to a call at a time, and the state after it. -/
  answer : (call : LedgerCall) → (time : Nat) → σ → Except TransportError call.Answer × σ
  /-- How long a call made at a time takes to be answered. -/
  latency : (call : LedgerCall) → (time : Nat) → σ → Nat := fun _ _ _ => 0

/-- The present time in milliseconds, the state of the ledger, and the newest exchange first. -/
structure World (σ : Type) where
  now : Nat
  ledger : σ
  log : List Exchange

namespace World

variable {σ : Type}

/-- The start of time, with nothing exchanged. -/
def start (ledger : σ) : World σ := ⟨0, ledger, []⟩

/-- The exchanges in the order they were made. -/
def history (world : World σ) : List Exchange := world.log.reverse

end World

/-- What happens in a world, step after step. -/
abbrev Process (σ α : Type) := StateM (World σ) α

namespace Process

variable {σ α β : Type}

@[simp] theorem pure_apply (value : α) (world : World σ) :
    (pure value : Process σ α) world = (value, world) := rfl

@[simp] theorem bind_apply
    (process : Process σ α)
    (next : α → Process σ β)
    (world : World σ) :
    (process >>= next) world = next (process world).1 (process world).2 := rfl

/-- The present time. -/
def now : Process σ Nat := fun world => (world.now, world)

/-- Lets time pass until a moment; a moment in the past lets none pass. -/
def sleepUntil (moment : Nat) : Process σ Unit := fun world =>
  ((), { world with now := max world.now moment })

/-- Lets a span of time pass. -/
def sleep (span : Nat) : Process σ Unit := fun world =>
  ((), { world with now := world.now + span })

/-- Does one thing that takes time. A cancellation before its end comes at its own moment. -/
def unlessCancelled
    (process : Process σ α)
    (cancelAt : Option Nat) : OptionT (Process σ) α := fun world =>
  let done := process world
  match cancelAt with
  | none => (some done.1, done.2)
  | some moment =>
      if moment < done.2.now then (none, { done.2 with now := max world.now moment })
      else (some done.1, done.2)

end Process

namespace Ledger

variable {σ : Type}

/-- Makes one call, records it, and lets the time pass that it takes. -/
def ask
    (ledger : Ledger σ)
    (call : LedgerCall) : Process σ (Except TransportError call.Answer) := fun world =>
  let (answer, next) := ledger.answer call world.now world.ledger
  (answer,
    { now := world.now + ledger.latency call world.now world.ledger
      ledger := next
      log := ⟨world.now, call, answer⟩ :: world.log })

@[simp] theorem history_ask (ledger : Ledger σ) (call : LedgerCall) (world : World σ) :
    (ledger.ask call world).2.history =
      world.history ++ [⟨world.now, call, (ledger.ask call world).1⟩] := by
  simp [ask, World.history]

end Ledger

end ContractGateway
