import ContractGateway.Transaction.Sequence

/-!
# What a sequence makes of its ledger

The state of a ledger changes only when a call is answered. So whatever every answer keeps, in the
sense of a reflexive and transitive relation between states (`Ledger.Develops`), is kept by all that
a client does: by a submission, by a wait, and by a whole sequence
(`Client.develops_submitSequence`).
-/

namespace ContractGateway

variable {σ α β : Type}

/-- Each answer takes the ledger from a state to a related one, and so do any number of them. -/
structure Ledger.Develops (ledger : Ledger σ) (relation : σ → σ → Prop) : Prop where
  refl : ∀ state, relation state state
  trans : ∀ {first second third},
    relation first second → relation second third → relation first third
  answer : ∀ call time state, relation state (ledger.answer call time state).2

/-- In every world the process takes the ledger to a related state. -/
def Process.Develops (relation : σ → σ → Prop) (process : Process σ α) : Prop :=
  ∀ world, relation world.ledger (process world).2.ledger

namespace Ledger.Develops

variable {ledger : Ledger σ} {relation : σ → σ → Prop}

theorem pure (develops : ledger.Develops relation) (value : α) :
    Process.Develops relation (Pure.pure value : Process σ α) :=
  fun world => develops.refl world.ledger

theorem bind
    (develops : ledger.Develops relation)
    {process : Process σ α}
    {next : α → Process σ β}
    (first : Process.Develops relation process)
    (rest : ∀ value, Process.Develops relation (next value)) :
    Process.Develops relation (process >>= next) :=
  fun world => develops.trans (first world) (rest _ _)

theorem ask (develops : ledger.Develops relation) (call : LedgerCall) :
    Process.Develops relation (ledger.ask call) :=
  fun world => develops.answer call world.now world.ledger

theorem now (develops : ledger.Develops relation) :
    Process.Develops relation (Process.now : Process σ Nat) :=
  fun world => develops.refl world.ledger

theorem uncancelled
    {process : Process σ α}
    (first : Process.Develops relation process) :
    Process.Develops relation (process.unlessCancelled none).run :=
  first

theorem bindSome
    (develops : ledger.Develops relation)
    {process : OptionT (Process σ) α}
    {next : α → OptionT (Process σ) β}
    (first : Process.Develops relation process.run)
    (rest : ∀ value, Process.Develops relation (next value).run) :
    Process.Develops relation (process >>= next).run := by
  rw [OptionT.run_bind]
  refine develops.bind first fun value => ?_
  cases value with
  | none => exact develops.pure none
  | some value => exact rest value

end Ledger.Develops

namespace Client

variable {client : Client σ} {relation : σ → σ → Prop}

theorem develops_resolve
    (develops : client.ledger.Develops relation)
    (factor : Binary64)
    (policy : FeePolicy) :
    Process.Develops relation (policy.resolve client.ledger factor) := by
  cases policy with
  | fixed pricing => exact develops.pure _
  | network =>
      refine develops.bind (develops.ask .estimateFees) fun fees => ?_
      cases fees with
      | ok fees => exact develops.pure _
      | error cause =>
          refine develops.bind (develops.ask .gasPrice) fun price => ?_
          cases price <;> exact develops.pure _

theorem develops_gasAndFees (develops : client.ledger.Develops relation) (write : PreparedWrite) :
    Process.Develops relation (client.gasAndFees write) := by
  have priced : Process.Develops relation (client.price write) :=
    develops_resolve develops _ _
  unfold gasAndFees
  cases write.options.gasLimit with
  | some limit =>
      refine develops.bind priced fun pricing => ?_
      cases pricing <;> exact develops.pure _
  | none =>
      have estimated : Process.Develops relation (client.estimate write) := by
        refine develops.bind (develops.ask _) fun gas => ?_
        cases gas with
        | error cause => exact develops.pure _
        | ok gas =>
            refine develops.bind priced fun pricing => ?_
            cases pricing <;> exact develops.pure _
      refine develops.bind estimated fun report => ?_
      cases report <;> exact develops.pure _

theorem develops_submitWith
    (develops : client.ledger.Develops relation)
    (write : PreparedWrite)
    (assigned : Option Nat) :
    Process.Develops relation (client.submitWith write assigned) := by
  refine develops.bind (develops_gasAndFees develops write) fun priced => ?_
  cases priced with
  | error error => exact develops.pure _
  | ok priced =>
      refine develops.bind (develops.ask _) fun hash => ?_
      cases hash <;> exact develops.pure _

theorem develops_poll (develops : client.ledger.Develops relation) (hash : Hash) :
    Process.Develops relation (client.poll none hash).run := by
  refine develops.bindSome (Ledger.Develops.uncancelled (develops.ask (.receipt hash)))
    fun answer => ?_
  rcases answer with cause | _ | receipt
  · exact develops.pure _
  · exact develops.pure _
  · dsimp only
    split
    · exact develops.pure _
    · refine develops.bindSome (Ledger.Develops.uncancelled (develops.ask .blockNumber))
        fun head => ?_
      cases head <;> exact develops.pure _

theorem develops_await
    (develops : client.ledger.Develops relation)
    (handle : Handle)
    (timeout : Nat) :
    Process.Develops relation (client.await handle timeout) := by
  have watched (deadline fuel : Nat) (watch : Watch) :
      Process.Develops relation (client.watch handle.hash deadline none fuel watch).run := by
    induction fuel generalizing watch with
    | zero => exact develops.pure _
    | succ fuel inductionHypothesis =>
        refine develops.bindSome (develops_poll develops handle.hash) fun found => ?_
        refine develops.bindSome (fun world => develops.refl world.ledger) fun now => ?_
        cases watch.decide client.config.confirmation deadline now found with
        | finish outcome => exact develops.pure _
        | pause wake next =>
            exact
              develops.bindSome (fun world => develops.refl world.ledger) fun _ =>
                inductionHypothesis next
  exact develops.bind develops.now fun _ => develops.bind (watched _ _ _) fun _ => develops.pure _

theorem develops_submitSequential
    (develops : client.ledger.Develops relation)
    (timeout index : Nat)
    (completed : List TransactionResult)
    (writes : List PreparedWrite) :
    Process.Develops relation (client.submitSequential timeout index completed writes) := by
  induction writes generalizing index completed with
  | nil => exact develops.pure _
  | cons write rest inductionHypothesis =>
      refine develops.bind (develops_submitWith develops write none) fun handle => ?_
      cases handle with
      | error cause => exact develops.pure _
      | ok handle =>
          refine develops.bind (develops_await develops handle timeout) fun result => ?_
          split
          · exact inductionHypothesis _ _
          · exact develops.pure _

theorem develops_assignNonce
    (develops : client.ledger.Develops relation)
    (write : PreparedWrite)
    (nonces : NonceTable) :
    Process.Develops relation (client.assignNonce write nonces) := by
  unfold assignNonce
  split
  · split
    · exact develops.pure _
    · refine develops.bind (develops.ask _) fun nonce => ?_
      cases nonce <;> exact develops.pure _
  · exact develops.pure _

theorem develops_submitAll
    (develops : client.ledger.Develops relation)
    (index : Nat)
    (nonces : NonceTable)
    (writes : List PreparedWrite) :
    Process.Develops relation (client.submitAll index nonces writes) := by
  induction writes generalizing index nonces with
  | nil => exact develops.pure _
  | cons write rest inductionHypothesis =>
      refine develops.bind (develops_assignNonce develops write nonces) fun assigned => ?_
      cases assigned with
      | error cause => exact develops.pure _
      | ok assigned =>
          refine develops.bind (develops_submitWith develops write assigned.1) fun handle => ?_
          cases handle with
          | error cause => exact develops.pure _
          | ok handle =>
              exact develops.bind (inductionHypothesis _ _) fun _ => develops.pure _

theorem develops_awaitAll
    (develops : client.ledger.Develops relation)
    (deadline index : Nat)
    (handles : List Handle) :
    Process.Develops relation (client.awaitAll deadline index handles) := by
  induction handles generalizing index with
  | nil => exact develops.pure _
  | cons handle rest inductionHypothesis =>
      refine develops.bind develops.now fun now => ?_
      refine develops.bind (develops_await develops handle _) fun result => ?_
      exact develops.bind (inductionHypothesis _) fun _ => develops.pure _

/-- What every answer keeps, a sequence keeps. -/
theorem develops_submitSequence
    (develops : client.ledger.Develops relation)
    (policy : SequencePolicy)
    (timeout : Nat)
    (writes : List PreparedWrite) :
    Process.Develops relation (client.submitSequence policy timeout writes) := by
  cases policy with
  | sequential => exact develops_submitSequential develops timeout 0 [] writes
  | parallel =>
      refine develops.bind (develops_submitAll develops 0 [] writes) fun submitted => ?_
      refine develops.bind develops.now fun now => ?_
      exact develops.bind (develops_awaitAll develops _ 0 submitted.1) fun _ => develops.pure _

end Client

end ContractGateway
