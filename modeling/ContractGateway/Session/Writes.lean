import ContractGateway.Revert.Interfaces
import ContractGateway.Transaction.Sequence

/-!
# Steps about writes

A session works through a script of steps and keeps what they produce under names. The steps of
this module handle writes: they estimate, submit and await prepared writes, alone or in
sequences. A step that fails keeps nothing, except that a failed sequence keeps the handles of
the steps that were submitted and not confirmed.
-/

namespace ContractGateway

/-- Values under names, the latest first. -/
abbrev Named (α : Type) := List (String × α)

/-- The client of a session, with what the executable is linked with. -/
def Client.linked {σ : Type} (ledger : Ledger σ) (config : Config) : Client σ where
  ledger := ledger
  config := config
  parsers := Revert.linkedParsers
  idlePolls := 100000

/-- A step about writes. -/
inductive WriteStep where
  | estimate (write : String)
  | submit (write name : String)
  /-- Waits for a timeout, the configured one if none is given, unless cancelled before. -/
  | await (handle : String) (timeout cancelAfter : Option Nat) (name : String)
  | receipt (result : String)
  | sequence (writes : List String) (policy : SequencePolicy) (timeout : Nat)
      (name : Option String)

/-- What a step about writes answers. -/
inductive WriteReply where
  /-- The step names something that is not there. -/
  | unnamed
  | failed (error : GatewayError)
  | sequenceFailed (failure : SequenceFailure)
  | prepared (write : PreparedWrite)
  | estimated (report : GasReport)
  | submitted (handle : Handle)
  | awaited (result : TransactionResult)
  | receipt (receipt : Receipt)
  | completed (results : List TransactionResult)

/-- The writes of a session and what became of them. -/
structure WriteBook where
  writes : Named PreparedWrite := []
  handles : Named Handle := []
  results : Named TransactionResult := []

namespace WriteBook

/-- Keeps a prepared write. -/
def prepare (book : WriteBook) (name : String) (write : PreparedWrite) : WriteBook :=
  { book with writes := (name, write) :: book.writes }

/-- The handles that a failed sequence leaves, under names that begin with its own. -/
def leftHandles (name : String) (failure : SequenceFailure) : Named Handle :=
  (failure.failed.map fun step => (name ++ ".failed", step.handle)).toList ++
    failure.unreported.mapIdx fun index step =>
      (name ++ ".unreported." ++ toString index, step.handle)

variable {σ : Type}

/-- Performs a step. -/
def perform
    (client : Client σ)
    (book : WriteBook) :
    WriteStep → Process σ (WriteReply × WriteBook)
  | .estimate write => do
      match book.writes.lookup write with
      | none => return (.unnamed, book)
      | some write =>
          match ← client.estimate write with
          | .error error => return (.failed error, book)
          | .ok report => return (.estimated report, book)
  | .submit write name => do
      match book.writes.lookup write with
      | none => return (.unnamed, book)
      | some write =>
          match ← client.submit write with
          | .error error => return (.failed error, book)
          | .ok handle =>
              return (.submitted handle, { book with handles := (name, handle) :: book.handles })
  | .await handle timeout cancelAfter name => do
      match book.handles.lookup handle with
      | none => return (.unnamed, book)
      | some handle =>
          let timeout := timeout.getD client.config.confirmation.receiptTimeout
          let result ← client.awaitUnlessCancelled handle timeout cancelAfter
          return (.awaited result, { book with results := (name, result) :: book.results })
  | .receipt result => do
      match (book.results.lookup result).map TransactionResult.toReceipt with
      | none => return (.unnamed, book)
      | some (.error error) => return (.failed error, book)
      | some (.ok receipt) => return (.receipt receipt, book)
  | .sequence writes policy timeout name => do
      match writes.mapM (book.writes.lookup ·) with
      | none => return (.unnamed, book)
      | some writes =>
          match ← client.submitSequence policy timeout writes with
          | .ok results => return (.completed results, book)
          | .error failure =>
              let left :=
                match name with
                | some name => leftHandles name failure
                | none => []
              return (.sequenceFailed failure, { book with handles := left ++ book.handles })

end WriteBook

/-- The answer to one step: the reply, what was exchanged, and the time after it if it moved. -/
structure StepAnswer (α : Type) where
  reply : α
  exchanges : List Exchange
  moved : Option Nat

namespace Process

variable {σ α : Type}

/-- Performs a step and tells what was exchanged in it and how time moved. -/
def answered (step : Process σ α) : Process σ (StepAnswer α) := fun world =>
  let (reply, next) := step { world with log := [] }
  (⟨reply, next.history, if next.now = world.now then none else some next.now⟩, next)

end Process

end ContractGateway
