import ContractGateway.Proofs.Transaction.Submission
import ContractGateway.Proofs.Transport.Reverts

/-!
# What a refused dry run is reported as

A node that refuses a dry run may give the reason of a revert in the data of its answer. Whether
that reason reaches the caller hangs on the wording of the answer: `Client.refusal_reverted_iff`
tells for which messages it does.
-/

namespace ContractGateway

namespace TransportError

/-- The reason that the revert data of an error answer gives. -/
def decodedReason? (cause : TransportError) (parsers : List Revert.ErrorParser) : Option String :=
  cause.revertData?.bind (Revert.reasonOfData? parsers)

section Reasons

variable {cause : TransportError} {parsers : List Revert.ErrorParser} {reason : String}

/-- A decoded reason is the one that is reported. -/
theorem reasonOfError_of_decodedReason?
    (decodes : cause.decodedReason? parsers = some reason) :
    Revert.reasonOfError parsers cause = reason := by
  rw [decodedReason?] at decodes
  rw [Revert.reasonOfError, decodes]

/-- Only an error answer with data that stands for bytes has a reason. -/
theorem response_of_decodedReason?
    (decodes : cause.decodedReason? parsers = some reason) :
    ∃ code message data bytes,
      cause = .response code message (some data) ∧ cause.revertData? = some bytes := by
  obtain ⟨bytes, carries, -⟩ := Option.bind_eq_some_iff.mp decodes
  cases cause with
  | response code message data =>
      cases data with
      | some data => exact ⟨code, message, data, bytes, rfl, carries⟩
      | none => cases carries
  | _ => cases carries

/-- A failure with a decoded reason counts as a revert exactly when the node's message says so. -/
theorem reverted_iff_of_decodedReason?
    (decodes : cause.decodedReason? parsers = some reason) :
    FailureKind.ofError cause = .reverted ↔
      Text.mentions (Revert.nodeMessage cause) "revert" = true ∨
        Text.mentions (Revert.nodeMessage cause) "invalid opcode" = true := by
  obtain ⟨code, message, data, bytes, rfl, carries⟩ := response_of_decodedReason? decodes
  exact FailureKind.ofError_eq_reverted_iff code message carries

end Reasons

end TransportError

/-- A failure of a dry run that is no revert is passed on. -/
theorem PreparedWrite.dryRunError_of_ne_reverted
    {write : PreparedWrite}
    {parsers : List Revert.ErrorParser}
    {cause : TransportError}
    (other : FailureKind.ofError cause ≠ .reverted) :
    write.dryRunError parsers cause = .transport cause := by
  have unclassified : (FailureKind.ofError cause).isRevert = false := by
    cases found : FailureKind.ofError cause with
    | reverted => exact absurd found other
    | _ => rfl
  rw [dryRunError, unclassified]
  rfl

section DryRuns

variable {σ : Type}

/-- The ledger refuses the dry run of a write. -/
def Client.Refuses
    (client : Client σ)
    (write : PreparedWrite)
    (world : World σ)
    (cause : TransportError) : Prop :=
  (client.ledger.answer (.estimateGas (write.request (client.sender write) write.options.nonce))
    world.now world.ledger).1 = .error cause

/-- Everything that dry-runs a write ends with an error, and the write is not sent. -/
structure Client.EndsUnsent
    (client : Client σ)
    (write : PreparedWrite)
    (world : World σ)
    (error : GatewayError) : Prop where
  estimated :
    Process.Yields (client.estimate write) world fun exchanges result _ =>
      result = .error error ∧ sentRequests exchanges = []
  submitted :
    write.options.gasLimit = none →
      Process.Yields (client.submit write) world fun exchanges result _ =>
        result = .error error ∧ sentRequests exchanges = []

namespace Client

variable
  {client : Client σ} {write : PreparedWrite} {world : World σ} {cause : TransportError}

/-- After a refused dry run nothing else is asked for. -/
theorem Refuses.yields_estimate
    (refuses : client.Refuses write world cause) :
    Process.Yields (client.estimate write) world fun exchanges result _ =>
      result = .error (write.dryRunError client.parsers cause) ∧ sentRequests exchanges = [] := by
  apply (Process.Yields.ask client.ledger _ world).bind
  rintro exchanges answer middle ⟨rfl, answered, -⟩
  rw [Refuses] at refuses
  rw [refuses] at answered
  subst answered
  exact .pure ⟨rfl, rfl⟩

/-- A refused dry run ends what asked for it. -/
theorem Refuses.endsUnsent
    (refuses : client.Refuses write world cause) :
    client.EndsUnsent write world (write.dryRunError client.parsers cause) := by
  refine ⟨refuses.yields_estimate, fun unlimited => ?_⟩
  have priced :
      Process.Yields (client.gasAndFees write) world fun exchanges result _ =>
        result = .error (write.dryRunError client.parsers cause) ∧ sentRequests exchanges = [] := by
    unfold gasAndFees
    rw [unlimited]
    apply refuses.yields_estimate.bind
    rintro exchanges _ middle ⟨rfl, unsent⟩
    exact .pure ⟨rfl, by simpa using unsent⟩
  apply priced.bind
  rintro exchanges _ middle ⟨rfl, unsent⟩
  exact .pure ⟨rfl, by simpa using unsent⟩

/--
A dry run that is refused with a decodable reason counts as a revert, and ends as a simulated one
with that reason, exactly when the node's message mentions a revert or an invalid opcode. Else it
ends as a failure of the transport.
-/
theorem refusal_reverted_iff
    {reason : String}
    (refuses : client.Refuses write world cause)
    (decodes : cause.decodedReason? client.parsers = some reason) :
    let mentioned :=
      Text.mentions (Revert.nodeMessage cause) "revert" = true ∨
        Text.mentions (Revert.nodeMessage cause) "invalid opcode" = true
    (mentioned ↔
        FailureKind.ofError cause = .reverted ∧
          client.EndsUnsent write world (.simulationReverted write.label reason)) ∧
      (¬ mentioned → client.EndsUnsent write world (.transport cause)) := by
  intro mentioned
  have kind : FailureKind.ofError cause = .reverted ↔ mentioned :=
    TransportError.reverted_iff_of_decodedReason? decodes
  have ends := refuses.endsUnsent
  refine ⟨⟨fun reverts => ?_, fun reported => kind.mp reported.1⟩, fun otherwise => ?_⟩
  · have classified := kind.mpr reverts
    have error :
        write.dryRunError client.parsers cause = .simulationReverted write.label reason := by
      rw [PreparedWrite.dryRunError, classified,
        TransportError.reasonOfError_of_decodedReason? decodes]
      rfl
    exact ⟨classified, error ▸ ends⟩
  · exact PreparedWrite.dryRunError_of_ne_reverted (mt kind.mp otherwise) ▸ ends

end Client

/-- A node that refuses every dry run with a decodable reason, under a wording of its own. -/
def wordyLedger (message : String) : Ledger Unit where
  defaultSender := none
  answer
    | .estimateGas _, _, state => (.error (refusal message), state)
    | _, _, state => (.error .nullResponse, state)
where
  refusal (message : String) : TransportError :=
    .response 3 message (some
      "\"0x4e487b710000000000000000000000000000000000000000000000000000000000000011\"")

/-- What the data of the node's refusals says. -/
def overflowReason : String := "panic: arithmetic underflow or overflow (0x11)"

/-- A write that is dry-run before it is sent. -/
def bid : PreparedWrite where
  target := 0x10
  label := "auction.placeBid"
  calldata := []
  options := { fees := .fixed (.legacy 1) }

/-- The reason stands in the data, whatever the wording. -/
theorem decodedReason?_refusal (message : String) :
    (wordyLedger.refusal message).decodedReason? [] = some overflowReason := by
  change (wordyLedger.refusal "").decodedReason? [] = some overflowReason
  decide +kernel

/-- A refusal that is worded as a revert is reported as one. -/
theorem refusal_reverted_worded :
    let message := "execution reverted"
    let client : Client Unit := { ledger := wordyLedger message, config := {} }
    let cause := wordyLedger.refusal message
    client.Refuses bid (World.start ()) cause ∧
      cause.decodedReason? client.parsers = some overflowReason ∧
      FailureKind.ofError cause = .reverted ∧
      client.EndsUnsent bid (World.start ())
        (.simulationReverted "auction.placeBid" overflowReason) := by
  intro message client cause
  have refuses : client.Refuses bid (World.start ()) cause := rfl
  have decodes := decodedReason?_refusal message
  have mentioned : Text.mentions (Revert.nodeMessage cause) "revert" = true := by decide +kernel
  obtain ⟨classified, ends⟩ := (Client.refusal_reverted_iff refuses decodes).1.mp (.inl mentioned)
  exact ⟨refuses, decodes, classified, ends⟩

/-- Under another wording the same refusal hides its reason from the caller. -/
theorem refusal_reverted_hidden :
    let message := "VM execution error."
    let client : Client Unit := { ledger := wordyLedger message, config := {} }
    let cause := wordyLedger.refusal message
    client.Refuses bid (World.start ()) cause ∧
      cause.decodedReason? client.parsers = some overflowReason ∧
      FailureKind.ofError cause ≠ .reverted ∧
      (client.estimate bid (World.start ())).1 = .error (.transport cause) ∧
      (client.submit bid (World.start ())).1 = .error (.transport cause) := by
  intro message client cause
  have decodes := decodedReason?_refusal message
  have silent :
      Text.mentions (Revert.nodeMessage cause) "revert" = false ∧
        Text.mentions (Revert.nodeMessage cause) "invalid opcode" = false := by
    decide +kernel
  have classified : FailureKind.ofError cause ≠ .reverted := by
    rw [ne_eq, TransportError.reverted_iff_of_decodedReason? decodes, silent.1, silent.2]
    decide
  have estimated : (client.estimate bid (World.start ())).1 = .error (bid.dryRunError [] cause) :=
    rfl
  have submitted : (client.submit bid (World.start ())).1 = .error (bid.dryRunError [] cause) := rfl
  rw [PreparedWrite.dryRunError_of_ne_reverted classified] at estimated submitted
  exact ⟨rfl, decodes, classified, estimated, submitted⟩

end DryRuns

end ContractGateway
