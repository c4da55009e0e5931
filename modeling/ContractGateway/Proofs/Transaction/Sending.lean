import ContractGateway.Proofs.Transaction.Submission

/-!
# The calls of a submission

A submission makes its calls one after the other and stops at the first that fails for good.
`Leads` says so of the calls before the transaction is sent, and `Sending` of a whole submission:
it ends with the one transaction that carries the write, or with the call that failed.

A fee suggestion that fails is none of these failures, because the gas price is asked for instead.
-/

namespace ContractGateway

namespace LedgerCall

/-- The call prepares a write: it asks for a nonce, a dry run or a price. -/
def isPreparing : LedgerCall → Bool
  | .pendingNonce _ | .estimateGas _ | .estimateFees | .gasPrice => true
  | _ => false

end LedgerCall

namespace Exchange

/-- The call failed, and with it the submission: the nonce, dry run, price or sending. -/
def isFatal : Exchange → Bool
  | ⟨_, .pendingNonce _, .error _⟩ => true
  | ⟨_, .estimateGas _, .error _⟩ => true
  | ⟨_, .gasPrice, .error _⟩ => true
  | ⟨_, .send _, .error _⟩ => true
  | _ => false

theorem sent?_eq_none_of_isPreparing
    {exchange : Exchange}
    (preparing : exchange.call.isPreparing = true) :
    exchange.sent? = none := by
  rcases exchange with ⟨time, call, answer⟩
  cases call with
  | send request =>
      cases preparing
  | _ =>
      rfl

end Exchange

/-- Exchanges that prepare a write, none of which failed for good. -/
def Preparing (exchanges : List Exchange) : Prop :=
  ∀ exchange ∈ exchanges, exchange.call.isPreparing = true ∧ exchange.isFatal = false

namespace Preparing

theorem nil : Preparing [] := by
  simp [Preparing]

theorem single
    {exchange : Exchange}
    (prepares : exchange.call.isPreparing = true)
    (harmless : exchange.isFatal = false) :
    Preparing [exchange] := by
  intro other member
  obtain rfl := List.mem_singleton.mp member
  exact ⟨prepares, harmless⟩

theorem append
    {first second : List Exchange}
    (before : Preparing first)
    (behind : Preparing second) :
    Preparing (first ++ second) := by
  intro exchange member
  rcases List.mem_append.mp member with inFirst | inSecond
  · exact before exchange inFirst
  · exact behind exchange inSecond

theorem sentRequests_eq_nil
    {exchanges : List Exchange}
    (preparing : Preparing exchanges) :
    sentRequests exchanges = [] := by
  rw [sentRequests, List.filterMap_eq_nil_iff]
  intro exchange member
  exact Exchange.sent?_eq_none_of_isPreparing (preparing exchange member).1

end Preparing

/-- Preparations lead on, or stop at the first call that failed for good. -/
inductive Leads : List Exchange → (onwards : Bool) → Prop where
  | onwards
      (exchanges : List Exchange)
      (preparing : Preparing exchanges) :
      Leads exchanges true
  | stopped
      (before : List Exchange)
      (last : Exchange)
      (preparing : Preparing before)
      (prepares : last.call.isPreparing = true)
      (fatal : last.isFatal = true) :
      Leads (before ++ [last]) false

namespace Leads

theorem nothing : Leads [] true := .onwards [] .nil

theorem append_nil
    {exchanges : List Exchange}
    {onwards : Bool}
    (leads : Leads exchanges onwards) :
    Leads (exchanges ++ []) onwards := by
  rwa [List.append_nil]

theorem append
    {first second : List Exchange}
    {onwards : Bool}
    (before : Leads first true)
    (behind : Leads second onwards) :
    Leads (first ++ second) onwards := by
  cases before with
  | onwards _ prepared =>
      cases behind with
      | onwards _ preparing =>
          exact .onwards _ (prepared.append preparing)
      | stopped middle last preparing prepares fatal =>
          rw [← List.append_assoc]
          exact .stopped _ last (prepared.append preparing) prepares fatal

end Leads

section Preparations

variable {σ : Type}

/-- A preparing call whose failure is fatal leads on exactly when it is answered. -/
theorem yields_ask_leads
    (ledger : Ledger σ)
    {call : LedgerCall}
    (prepares : call.isPreparing = true)
    (fatal : ∀ time answer, Exchange.isFatal ⟨time, call, answer⟩ = !answer.isOk)
    (world : World σ) :
    Process.Yields (ledger.ask call) world fun exchanges answer _ =>
      Leads exchanges answer.isOk := by
  apply (Process.Yields.ask ledger call world).weaken
  rintro exchanges answer final ⟨rfl, -, -⟩
  have verdict := fatal world.now answer
  cases answered : answer.isOk with
  | true =>
      rw [answered] at verdict
      exact .onwards _ (.single prepares verdict)
  | false =>
      rw [answered] at verdict
      exact .stopped [] _ .nil prepares verdict

/-- Fees are found unless the gas price, which is asked for last, cannot be looked up. -/
theorem FeePolicy.leads_resolve
    (ledger : Ledger σ)
    (factor : Binary64)
    (policy : FeePolicy)
    (world : World σ) :
    Process.Yields (policy.resolve ledger factor) world fun exchanges pricing _ =>
      Leads exchanges pricing.isOk := by
  cases policy with
  | fixed pricing =>
      exact .pure .nothing
  | network =>
      apply (Process.Yields.ask ledger .estimateFees world).bind
      rintro asked fees middle ⟨rfl, -, -⟩
      -- A suggestion that fails is not fatal: it leads on to the query for the gas price.
      have suggested : Leads [⟨world.now, .estimateFees, fees⟩] true :=
        .onwards _ (.single rfl (by cases fees <;> rfl))
      cases fees with
      | ok fees =>
          exact .pure suggested.append_nil
      | error cause =>
          apply (yields_ask_leads ledger rfl (fun _ answer => by cases answer <;> rfl) middle).bind
          intro priceAsked price final led
          cases price <;> exact .pure (suggested.append led.append_nil)

namespace Client

variable (client : Client σ) (write : PreparedWrite)

/-- A dry run that is answered is followed by the pricing. -/
theorem leads_estimate (world : World σ) :
    Process.Yields (client.estimate write) world fun exchanges report _ =>
      Leads exchanges report.isOk := by
  apply (yields_ask_leads client.ledger rfl (fun _ answer => by cases answer <;> rfl) world).bind
  intro dryRun gas middle led
  cases gas with
  | error cause =>
      exact .pure led.append_nil
  | ok gas =>
      apply (FeePolicy.leads_resolve client.ledger _ write.options.fees middle).bind
      intro feesAsked pricing final priced
      cases pricing <;> exact .pure (led.append priced.append_nil)

/-- The gas limit and the fees of a write are found, or the last call for them failed. -/
theorem leads_gasAndFees (world : World σ) :
    Process.Yields (client.gasAndFees write) world fun exchanges found _ =>
      Leads exchanges found.isOk := by
  unfold gasAndFees
  cases write.options.gasLimit with
  | some limit =>
      apply (FeePolicy.leads_resolve client.ledger _ write.options.fees world).bind
      intro feesAsked pricing final priced
      cases pricing <;> exact .pure priced.append_nil
  | none =>
      apply (client.leads_estimate write world).bind
      intro estimated report final led
      cases report <;> exact .pure led.append_nil

end Client

end Preparations

section Submissions

variable {σ : Type}

/-- The transaction carries the write, at some nonce, gas limit and fees. -/
def Client.Carries
    (client : Client σ)
    (write : PreparedWrite)
    (request : TransactionRequest) : Prop :=
  ∃ assigned limit pricing, request = client.outgoing write assigned limit pricing

/--
What a submission exchanges: its preparations, and then the transaction that the ledger took, or in
their place the first call that failed for good.
-/
inductive Sending
    (client : Client σ)
    (write : PreparedWrite) : List Exchange → Option Handle → Prop where
  | accepted
      (before : List Exchange)
      (time : Nat)
      (request : TransactionRequest)
      (handle : Handle)
      (preparing : Preparing before)
      (carries : client.Carries write request) :
      Sending client write (before ++ [⟨time, .send request, .ok handle.hash⟩]) (some handle)
  | stopped
      (before : List Exchange)
      (last : Exchange)
      (preparing : Preparing before)
      (fatal : last.isFatal = true)
      (own : ∀ request, last.sent? = some request → client.Carries write request) :
      Sending client write (before ++ [last]) none

namespace Sending

variable {client : Client σ} {write : PreparedWrite}

/-- Preparations that stop are a submission without a handle. -/
theorem of_stopped
    {exchanges : List Exchange}
    (led : Leads exchanges false) :
    Sending client write exchanges none := by
  cases led with
  | stopped before last preparing prepares fatal =>
      refine .stopped before last preparing fatal fun request sent => ?_
      rw [Exchange.sent?_eq_none_of_isPreparing prepares] at sent
      cases sent

/-- More preparations in front of a submission belong to it. -/
theorem prepend
    {first exchanges : List Exchange}
    {handle : Option Handle}
    (led : Leads first true)
    (sending : Sending client write exchanges handle) :
    Sending client write (first ++ exchanges) handle := by
  cases led with
  | onwards _ prepared =>
      cases sending with
      | accepted before time request handle preparing carries =>
          rw [← List.append_assoc]
          exact .accepted _ time request handle (prepared.append preparing) carries
      | stopped before last preparing fatal own =>
          rw [← List.append_assoc]
          exact .stopped _ last (prepared.append preparing) fatal own

end Sending

/-- Submitting a write with an assigned nonce is such a submission. -/
theorem Client.sending_submitWith
    (client : Client σ)
    (write : PreparedWrite)
    (assigned : Option Nat)
    (world : World σ) :
    Process.Yields (client.submitWith write assigned) world fun exchanges result _ =>
      Sending client write exchanges result.toOption := by
  apply (client.leads_gasAndFees write world).bind
  intro before found middle led
  cases found with
  | error error =>
      exact .pure (Sending.of_stopped led.append_nil)
  | ok found =>
      obtain ⟨limit, pricing⟩ := found
      apply (Process.Yields.ask client.ledger _ middle).bind
      rintro sending answer final ⟨rfl, -, -⟩
      have carries :
          client.Carries write (client.outgoing write assigned limit pricing) :=
        ⟨assigned, limit, pricing, rfl⟩
      cases led with
      | onwards _ preparing =>
          cases answer with
          | error cause =>
              refine .pure (.stopped before _ preparing rfl ?_)
              rintro request ⟨⟩
              exact carries
          | ok hash =>
              let handle := client.issued write assigned hash
              exact .pure (.accepted before middle.now _ handle preparing carries)

end Submissions

end ContractGateway
