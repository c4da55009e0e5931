import ContractGateway.Proofs.Ledger.Yields
import ContractGateway.Transaction.Submission

/-!
# What a submission exchanges

Before a write is sent, only gas and fees are asked for, and then it is sent at most once.
`Attempt` lists the ways this can end, with the exchanges of each, and `Client.yields_submitWith`
says that there is no other.

The sends of a history are looked at in two ways: `sentRequests` has all of them, `acceptedSends`
those that the ledger took, with their hashes.
-/

namespace ContractGateway

namespace LedgerCall

/-- The call neither sends anything nor asks for a nonce. -/
def isQuiet : LedgerCall → Bool
  | .send _ | .pendingNonce _ => false
  | _ => true

end LedgerCall

namespace Exchange

/-- The transaction that was handed to the ledger. -/
def sent? : Exchange → Option TransactionRequest
  | ⟨_, .send request, _⟩ => some request
  | _ => none

/-- The transaction that the ledger took, with its hash. -/
def accepted? : Exchange → Option (TransactionRequest × Hash)
  | ⟨_, .send request, .ok hash⟩ => some (request, hash)
  | _ => none

/-- What was not handed to the ledger was not taken by it. -/
theorem accepted?_eq_none_of_sent?
    {exchange : Exchange}
    (unsent : exchange.sent? = none) :
    exchange.accepted? = none := by
  rcases exchange with ⟨time, call, answer⟩
  cases call with
  | send request =>
      cases unsent
  | _ =>
      rfl

theorem sent?_eq_none_of_isQuiet
    {exchange : Exchange}
    (quiet : exchange.call.isQuiet = true) :
    exchange.sent? = none := by
  rcases exchange with ⟨time, call, answer⟩
  cases call with
  | send request =>
      cases quiet
  | _ =>
      rfl

end Exchange

/-- All transactions that were handed to the ledger, in order. -/
def sentRequests (history : List Exchange) : List TransactionRequest :=
  history.filterMap Exchange.sent?

/-- The transactions that the ledger took, in order, with their hashes. -/
def acceptedSends (history : List Exchange) : List (TransactionRequest × Hash) :=
  history.filterMap Exchange.accepted?

@[simp] theorem sentRequests_append (first second : List Exchange) :
    sentRequests (first ++ second) = sentRequests first ++ sentRequests second :=
  List.filterMap_append

@[simp] theorem acceptedSends_append (first second : List Exchange) :
    acceptedSends (first ++ second) = acceptedSends first ++ acceptedSends second :=
  List.filterMap_append

theorem acceptedSends_eq_nil_of_sentRequests
    {history : List Exchange}
    (unsent : sentRequests history = []) :
    acceptedSends history = [] := by
  rw [sentRequests, List.filterMap_eq_nil_iff] at unsent
  rw [acceptedSends, List.filterMap_eq_nil_iff]
  intro exchange member
  exact Exchange.accepted?_eq_none_of_sent? (unsent exchange member)

/-- Exchanges that neither send anything nor ask for a nonce. -/
def Quiet (exchanges : List Exchange) : Prop :=
  ∀ exchange ∈ exchanges, exchange.call.isQuiet = true

namespace Quiet

theorem nil : Quiet [] := by
  simp [Quiet]

theorem append
    {first second : List Exchange}
    (firstQuiet : Quiet first)
    (secondQuiet : Quiet second) :
    Quiet (first ++ second) := by
  intro exchange member
  rcases List.mem_append.mp member with inFirst | inSecond
  · exact firstQuiet exchange inFirst
  · exact secondQuiet exchange inSecond

theorem sentRequests_eq_nil
    {exchanges : List Exchange}
    (quiet : Quiet exchanges) :
    sentRequests exchanges = [] := by
  rw [sentRequests, List.filterMap_eq_nil_iff]
  intro exchange member
  exact Exchange.sent?_eq_none_of_isQuiet (quiet exchange member)

theorem acceptedSends_eq_nil
    {exchanges : List Exchange}
    (quiet : Quiet exchanges) :
    acceptedSends exchanges = [] :=
  acceptedSends_eq_nil_of_sentRequests quiet.sentRequests_eq_nil

theorem asksNoNonce
    {exchanges : List Exchange}
    (quiet : Quiet exchanges) :
    ∀ exchange ∈ exchanges, ∀ sender, exchange.call ≠ .pendingNonce sender := by
  intro exchange member sender asks
  have answered := quiet exchange member
  rw [asks] at answered
  cases answered

end Quiet

section Preparation

variable {σ : Type}

theorem yields_ask_quiet
    (ledger : Ledger σ)
    {call : LedgerCall}
    (quiet : call.isQuiet = true)
    (world : World σ) :
    Process.Yields (ledger.ask call) world fun exchanges _ _ => Quiet exchanges := by
  apply (Process.Yields.ask ledger call world).weaken
  rintro exchanges answer final ⟨rfl, -, -⟩
  simpa [Quiet] using quiet

/-- Fees are found quietly. -/
theorem FeePolicy.yields_resolve
    (ledger : Ledger σ)
    (factor : Binary64)
    (policy : FeePolicy)
    (world : World σ) :
    Process.Yields (policy.resolve ledger factor) world fun exchanges _ _ =>
      Quiet exchanges := by
  cases policy with
  | fixed pricing =>
      exact .pure .nil
  | network =>
      apply (yields_ask_quiet ledger rfl world).bind
      intro feesAsked fees middle feesQuiet
      cases fees with
      | ok fees =>
          exact .pure (feesQuiet.append .nil)
      | error cause =>
          apply (yields_ask_quiet ledger rfl middle).bind
          intro priceAsked price final priceQuiet
          cases price with
          | ok price =>
              exact .pure (feesQuiet.append (priceQuiet.append .nil))
          | error cause =>
              exact .pure (feesQuiet.append (priceQuiet.append .nil))

namespace Client

variable (client : Client σ) (write : PreparedWrite)

/-- A dry run and its pricing are quiet. -/
theorem yields_estimate (world : World σ) :
    Process.Yields (client.estimate write) world fun exchanges _ _ => Quiet exchanges := by
  apply (yields_ask_quiet client.ledger rfl world).bind
  intro dryRun gas middle dryRunQuiet
  cases gas with
  | error cause =>
      exact .pure (dryRunQuiet.append .nil)
  | ok gas =>
      apply (FeePolicy.yields_resolve client.ledger _ write.options.fees middle).bind
      intro feesAsked pricing final feesQuiet
      cases pricing with
      | error cause =>
          exact .pure (dryRunQuiet.append (feesQuiet.append .nil))
      | ok pricing =>
          exact .pure (dryRunQuiet.append (feesQuiet.append .nil))

/-- The gas limit and the fees of a write are found quietly. -/
theorem yields_gasAndFees (world : World σ) :
    Process.Yields (client.gasAndFees write) world fun exchanges _ _ =>
      Quiet exchanges := by
  unfold gasAndFees
  cases write.options.gasLimit with
  | some limit =>
      apply (FeePolicy.yields_resolve client.ledger _ write.options.fees world).bind
      intro feesAsked pricing final feesQuiet
      cases pricing with
      | error cause =>
          exact .pure (feesQuiet.append .nil)
      | ok pricing =>
          exact .pure (feesQuiet.append .nil)
  | none =>
      apply (client.yields_estimate write world).bind
      intro estimated report final estimatedQuiet
      cases report with
      | error error =>
          exact .pure (estimatedQuiet.append .nil)
      | ok report =>
          exact .pure (estimatedQuiet.append .nil)

end Client

end Preparation

section Attempts

variable {σ : Type}

/-- The transaction that a write is sent as. -/
def Client.outgoing
    (client : Client σ)
    (write : PreparedWrite)
    (assigned : Option Nat)
    (limit : Nat)
    (pricing : Pricing) : TransactionRequest :=
  { write.request (client.sender write) (assigned <|> write.options.nonce) with
    gasLimit := some limit
    fees := some pricing }

/-- The handle that a write is given once the ledger took it. -/
def Client.issued
    (client : Client σ)
    (write : PreparedWrite)
    (assigned : Option Nat)
    (hash : Hash) : Handle where
  hash := hash
  label := write.label
  sender := client.sender write
  nonce := assigned <|> write.options.nonce

/-- What a submission with an assigned nonce exchanges, and how it ends. -/
inductive Attempt
    (client : Client σ)
    (write : PreparedWrite)
    (assigned : Option Nat) : List Exchange → Except GatewayError Handle → Prop where
  /-- Something failed before the write was sent. -/
  | unsent
      (exchanges : List Exchange)
      (error : GatewayError)
      (quiet : Quiet exchanges) :
      Attempt client write assigned exchanges (.error error)
  /-- The ledger did not take the transaction. -/
  | refused
      (exchanges : List Exchange)
      (time limit : Nat)
      (pricing : Pricing)
      (cause : TransportError)
      (quiet : Quiet exchanges) :
      Attempt client write assigned
        (exchanges ++
          [⟨time, .send (client.outgoing write assigned limit pricing), .error cause⟩])
        (.error (.transport cause))
  /-- The ledger took the transaction. -/
  | accepted
      (exchanges : List Exchange)
      (time limit : Nat)
      (pricing : Pricing)
      (hash : Hash)
      (quiet : Quiet exchanges) :
      Attempt client write assigned
        (exchanges ++ [⟨time, .send (client.outgoing write assigned limit pricing), .ok hash⟩])
        (.ok (client.issued write assigned hash))

namespace Attempt

variable
  {client : Client σ} {write : PreparedWrite} {assigned : Option Nat} {exchanges : List Exchange}

/-- An attempt without a handle left nothing at the ledger. -/
theorem acceptedSends_of_error
    {error : GatewayError}
    (attempt : Attempt client write assigned exchanges (.error error)) :
    acceptedSends exchanges = [] := by
  cases attempt with
  | unsent _ _ quiet =>
      exact quiet.acceptedSends_eq_nil
  | refused before time limit pricing cause quiet =>
      rw [acceptedSends_append, quiet.acceptedSends_eq_nil]
      rfl

/-- The handle of an attempt is that of the one transaction that the ledger took. -/
theorem acceptedSends_of_ok
    {handle : Handle}
    (attempt : Attempt client write assigned exchanges (.ok handle)) :
    ∃ limit pricing hash,
      acceptedSends exchanges =
          [(client.outgoing write assigned limit pricing, hash)] ∧
        handle = client.issued write assigned hash := by
  cases attempt with
  | accepted before time limit pricing hash quiet =>
      refine ⟨limit, pricing, hash, ?_, rfl⟩
      rw [acceptedSends_append, quiet.acceptedSends_eq_nil]
      rfl

/-- An attempt without a handle hands nothing to the ledger, or just its transaction. -/
theorem sentRequests_of_error
    {error : GatewayError}
    (attempt : Attempt client write assigned exchanges (.error error)) :
    sentRequests exchanges = [] ∨
      ∃ limit pricing, sentRequests exchanges = [client.outgoing write assigned limit pricing] := by
  cases attempt with
  | unsent _ _ quiet =>
      exact .inl quiet.sentRequests_eq_nil
  | refused before time limit pricing cause quiet =>
      refine .inr ⟨limit, pricing, ?_⟩
      rw [sentRequests_append, quiet.sentRequests_eq_nil]
      rfl

/-- An attempt with a handle hands just its transaction to the ledger. -/
theorem sentRequests_of_ok
    {handle : Handle}
    (attempt : Attempt client write assigned exchanges (.ok handle)) :
    ∃ limit pricing, sentRequests exchanges = [client.outgoing write assigned limit pricing] := by
  cases attempt with
  | accepted before time limit pricing hash quiet =>
      refine ⟨limit, pricing, ?_⟩
      rw [sentRequests_append, quiet.sentRequests_eq_nil]
      rfl

/-- What an attempt hands to the ledger is its own transaction, once. -/
theorem sentRequests_cases
    {result : Except GatewayError Handle}
    (attempt : Attempt client write assigned exchanges result) :
    sentRequests exchanges = [] ∨
      ∃ limit pricing, sentRequests exchanges = [client.outgoing write assigned limit pricing] := by
  cases result with
  | error error =>
      exact attempt.sentRequests_of_error
  | ok handle =>
      exact .inr attempt.sentRequests_of_ok

/-- An attempt asks for no nonce. -/
theorem asksNoNonce
    {result : Except GatewayError Handle}
    (attempt : Attempt client write assigned exchanges result) :
    ∀ exchange ∈ exchanges, ∀ sender, exchange.call ≠ .pendingNonce sender := by
  cases attempt with
  | unsent _ error quiet =>
      exact quiet.asksNoNonce
  | refused before time limit pricing cause quiet =>
      simpa [or_imp, forall_and] using quiet.asksNoNonce
  | accepted before time limit pricing hash quiet =>
      simpa [or_imp, forall_and] using quiet.asksNoNonce

end Attempt

/-- A submission is one attempt. -/
theorem Client.yields_submitWith
    (client : Client σ)
    (write : PreparedWrite)
    (assigned : Option Nat)
    (world : World σ) :
    Process.Yields (client.submitWith write assigned) world fun exchanges result _ =>
      Attempt client write assigned exchanges result := by
  apply (client.yields_gasAndFees write world).bind
  intro before found middle quiet
  cases found with
  | error error =>
      exact .pure (.unsent _ error (quiet.append .nil))
  | ok found =>
      obtain ⟨limit, pricing⟩ := found
      apply (Process.Yields.ask client.ledger _ middle).bind
      rintro sending answer final ⟨rfl, -, -⟩
      cases answer with
      | error cause =>
          exact .pure (.refused before middle.now limit pricing cause quiet)
      | ok hash =>
          exact .pure (.accepted before middle.now limit pricing hash quiet)

end Attempts

end ContractGateway
