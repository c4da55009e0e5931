import ContractGateway.Proofs.Transaction.Sending

/-!
# A submission sends what its write describes

`Priced`, `Estimated`, `Prepared` and `Submitted` list, stage by stage, the calls that a submission
makes, the answers on which it makes them, and what it ends with. The transaction that is sent is
written out there field by field (`Client.described`), with the gas limit and the fees that the
answers lead to.

`Client.submit_sends_described` says that every submission is such a list, whatever the ledger
answers. A field that was lost on one of the ways through gas limit and fees would have no
constructor here.
-/

namespace ContractGateway

variable {σ : Type}

/-- How a fee policy is made into fees: the calls for it and their answers. -/
inductive Priced (factor : Binary64) :
    FeePolicy → List Exchange → Except TransportError Pricing → Prop where
  /-- Fees that a write carries are taken without a call. -/
  | carried (pricing : Pricing) : Priced factor (.fixed pricing) [] (.ok pricing)
  | suggested
      (time : Nat)
      (fees : FeeEstimate) :
      Priced factor .network
        [⟨time, .estimateFees, .ok fees⟩]
        (.ok (.eip1559 (boost fees.maxFee factor) (boost fees.maxPriorityFee factor)))
  /-- The gas price is asked for behind a failed suggestion only. -/
  | fallback
      (time later price : Nat)
      (cause : TransportError) :
      Priced factor .network
        [⟨time, .estimateFees, .error cause⟩, ⟨later, .gasPrice, .ok price⟩]
        (.ok (.legacy (boost price factor)))
  | unpriced
      (time later : Nat)
      (suggestion cause : TransportError) :
      Priced factor .network
        [⟨time, .estimateFees, .error suggestion⟩, ⟨later, .gasPrice, .error cause⟩]
        (.error cause)

/-- The transaction that a write describes, with a gas limit and fees once they are known. -/
def Client.described
    (client : Client σ)
    (write : PreparedWrite)
    (limit : Option Nat)
    (fees : Option Pricing) : TransactionRequest where
  target := some write.target
  input := some write.calldata
  value := some write.options.value
  sender := write.options.sender <|> client.ledger.defaultSender
  nonce := write.options.nonce
  gasLimit := limit
  fees := fees

section Stages

variable (client : Client σ) (write : PreparedWrite)

/-- The pricing of a write under the configured factor. -/
abbrev Client.Prices : List Exchange → Except TransportError Pricing → Prop :=
  Priced client.config.gas.feeMultiplier write.options.fees

/-- An estimate: one dry run, and the pricing when it goes through. -/
inductive Estimated : List Exchange → Except GatewayError GasReport → Prop where
  | refused
      (time : Nat)
      (cause : TransportError) :
      Estimated
        [⟨time, .estimateGas (client.described write none none), .error cause⟩]
        (.error (write.dryRunError client.parsers cause))
  | unpriced
      (time gas : Nat)
      (pricing : List Exchange)
      (cause : TransportError)
      (priced : client.Prices write pricing (.error cause)) :
      Estimated
        (⟨time, .estimateGas (client.described write none none), .ok gas⟩ :: pricing)
        (.error (.transport cause))
  /-- The limit is the scaled estimate, cut to 64 bits, but never below the estimate. -/
  | priced
      (time gas : Nat)
      (pricing : List Exchange)
      (fees : Pricing)
      (priced : client.Prices write pricing (.ok fees)) :
      Estimated
        (⟨time, .estimateGas (client.described write none none), .ok gas⟩ :: pricing)
        (.ok
          ⟨gas, max gas (min (gas * client.config.gas.limitPercent / 100) (2 ^ 64 - 1)), fees⟩)

/-- The gas limit and the fees of a write: its own limit, else the one of an estimate. -/
inductive Prepared : List Exchange → Except GatewayError (Nat × Pricing) → Prop where
  | limited
      (limit : Nat)
      (pricing : List Exchange)
      (fees : Pricing)
      (carries : write.options.gasLimit = some limit)
      (priced : client.Prices write pricing (.ok fees)) :
      Prepared pricing (.ok (limit, fees))
  | unpriced
      (limit : Nat)
      (pricing : List Exchange)
      (cause : TransportError)
      (carries : write.options.gasLimit = some limit)
      (priced : client.Prices write pricing (.error cause)) :
      Prepared pricing (.error (.transport cause))
  | estimated
      (exchanges : List Exchange)
      (report : GasReport)
      (unset : write.options.gasLimit = none)
      (estimated : Estimated client write exchanges (.ok report)) :
      Prepared exchanges (.ok (report.safeLimit, report.pricing))
  | failed
      (exchanges : List Exchange)
      (error : GatewayError)
      (unset : write.options.gasLimit = none)
      (estimated : Estimated client write exchanges (.error error)) :
      Prepared exchanges (.error error)

/-- A submission: its preparation, and the one sending when that goes through. -/
inductive Submitted : List Exchange → Except GatewayError Handle → Prop where
  | unprepared
      (exchanges : List Exchange)
      (error : GatewayError)
      (prepared : Prepared client write exchanges (.error error)) :
      Submitted exchanges (.error error)
  | rejected
      (exchanges : List Exchange)
      (time limit : Nat)
      (fees : Pricing)
      (cause : TransportError)
      (prepared : Prepared client write exchanges (.ok (limit, fees))) :
      Submitted
        (exchanges ++
          [⟨time, .send (client.described write (some limit) (some fees)), .error cause⟩])
        (.error (.transport cause))
  /-- The handle repeats the hash, the label, the sender and the nonce. -/
  | accepted
      (exchanges : List Exchange)
      (time limit : Nat)
      (fees : Pricing)
      (hash : Hash)
      (prepared : Prepared client write exchanges (.ok (limit, fees))) :
      Submitted
        (exchanges ++ [⟨time, .send (client.described write (some limit) (some fees)), .ok hash⟩])
        (.ok
          { hash := hash
            label := write.label
            sender := write.options.sender <|> client.ledger.defaultSender
            nonce := write.options.nonce })

end Stages

/-- Fees are found in one of these ways. -/
theorem FeePolicy.priced_resolve
    (ledger : Ledger σ)
    (factor : Binary64)
    (policy : FeePolicy)
    (world : World σ) :
    Process.Yields (policy.resolve ledger factor) world fun exchanges result _ =>
      Priced factor policy exchanges result := by
  cases policy with
  | fixed pricing =>
      exact .pure (.carried pricing)
  | network =>
      apply (Process.Yields.ask ledger .estimateFees world).bind
      rintro asked fees middle ⟨rfl, -, -⟩
      cases fees with
      | ok fees =>
          exact .pure (.suggested world.now fees)
      | error suggestion =>
          apply (Process.Yields.ask ledger .gasPrice middle).bind
          rintro priceAsked price final ⟨rfl, -, -⟩
          cases price with
          | ok price =>
              exact .pure (.fallback world.now middle.now price suggestion)
          | error cause =>
              exact .pure (.unpriced world.now middle.now suggestion cause)

namespace Client

variable (client : Client σ) (write : PreparedWrite)

theorem estimated_estimate (world : World σ) :
    Process.Yields (client.estimate write) world fun exchanges result _ =>
      Estimated client write exchanges result := by
  apply
    (Process.Yields.ask client.ledger (.estimateGas (client.described write none none)) world).bind
  rintro dryRun gas middle ⟨rfl, -, -⟩
  cases gas with
  | error cause =>
      exact .pure (.refused world.now cause)
  | ok gas =>
      apply (FeePolicy.priced_resolve client.ledger _ write.options.fees middle).bind
      intro pricing fees final priced
      cases fees with
      | error cause =>
          exact .pure (by simpa using Estimated.unpriced world.now gas pricing cause priced)
      | ok fees =>
          have limited := Estimated.priced world.now gas pricing fees priced
          rw [Nat.max_comm, ← safeGasLimit] at limited
          exact .pure (by simpa using limited)

theorem prepared_gasAndFees (world : World σ) :
    Process.Yields (client.gasAndFees write) world fun exchanges result _ =>
      Prepared client write exchanges result := by
  unfold gasAndFees
  cases carries : write.options.gasLimit with
  | some limit =>
      apply (FeePolicy.priced_resolve client.ledger _ write.options.fees world).bind
      intro pricing fees final priced
      cases fees with
      | error cause =>
          exact .pure (by simpa using Prepared.unpriced limit pricing cause carries priced)
      | ok fees =>
          exact .pure (by simpa using Prepared.limited limit pricing fees carries priced)
  | none =>
      apply (client.estimated_estimate write world).bind
      intro exchanges report final estimated
      cases report with
      | error error =>
          exact .pure (by simpa using Prepared.failed exchanges error carries estimated)
      | ok report =>
          exact .pure (by simpa using Prepared.estimated exchanges report carries estimated)

theorem submitted_submit (world : World σ) :
    Process.Yields (client.submit write) world fun exchanges result _ =>
      Submitted client write exchanges result := by
  apply (client.prepared_gasAndFees write world).bind
  intro exchanges found middle prepared
  cases found with
  | error error =>
      exact .pure (by simpa using Submitted.unprepared exchanges error prepared)
  | ok found =>
      obtain ⟨limit, fees⟩ := found
      apply (Process.Yields.ask client.ledger _ middle).bind
      rintro sending answer final ⟨rfl, -, -⟩
      cases answer with
      | error cause =>
          exact .pure (.rejected exchanges middle.now limit fees cause prepared)
      | ok hash =>
          exact .pure (.accepted exchanges middle.now limit fees hash prepared)

end Client

/-- Nothing is called behind a call that failed for good. -/
def FailsLast (exchanges : List Exchange) : Prop :=
  ∀ before failed after,
    exchanges = before ++ failed :: after → failed.isFatal = true → after = []

theorem Preparing.failsLast
    {before : List Exchange}
    (preparing : Preparing before)
    (last : Exchange) :
    FailsLast (before ++ [last]) := by
  intro earlier failed after split fatal
  rcases List.eq_nil_or_concat after with rfl | ⟨rest, final, rfl⟩
  · rfl
  · -- A call with another one behind it is one of the preparations, which did not fail.
    have shifted : before ++ [last] = (earlier ++ failed :: rest) ++ [final] := by simpa using split
    obtain ⟨rfl, -⟩ := List.append_inj' shifted rfl
    have harmless := (preparing failed (by simp)).2
    rw [harmless] at fatal
    cases fatal

theorem Sending.failsLast
    {client : Client σ}
    {write : PreparedWrite}
    {exchanges : List Exchange}
    {handle : Option Handle}
    (sending : Sending client write exchanges handle) :
    FailsLast exchanges := by
  cases sending with
  | accepted before time request handle preparing carries =>
      exact preparing.failsLast _
  | stopped before last preparing fatal own =>
      exact preparing.failsLast last

section Requests

variable {client : Client σ} {write : PreparedWrite} {exchanges : List Exchange}

theorem Priced.sentRequests_eq_nil
    {factor : Binary64}
    {policy : FeePolicy}
    {result : Except TransportError Pricing}
    (priced : Priced factor policy exchanges result) :
    sentRequests exchanges = [] := by
  cases priced <;> rfl

theorem Estimated.sentRequests_eq_nil
    {result : Except GatewayError GasReport}
    (estimated : Estimated client write exchanges result) :
    sentRequests exchanges = [] := by
  cases estimated with
  | refused time cause =>
      rfl
  | unpriced time gas pricing cause priced =>
      exact priced.sentRequests_eq_nil
  | priced time gas pricing fees priced =>
      exact priced.sentRequests_eq_nil

theorem Prepared.sentRequests_eq_nil
    {result : Except GatewayError (Nat × Pricing)}
    (prepared : Prepared client write exchanges result) :
    sentRequests exchanges = [] := by
  cases prepared with
  | limited limit _ fees carries priced =>
      exact priced.sentRequests_eq_nil
  | unpriced limit _ cause carries priced =>
      exact priced.sentRequests_eq_nil
  | estimated _ report unset estimated =>
      exact estimated.sentRequests_eq_nil
  | failed _ error unset estimated =>
      exact estimated.sentRequests_eq_nil

/-- A submission sends the transaction that its write describes, or nothing. -/
theorem Submitted.sentRequests_eq
    {result : Except GatewayError Handle}
    (submitted : Submitted client write exchanges result) :
    sentRequests exchanges = [] ∨
      ∃ limit fees, sentRequests exchanges = [client.described write (some limit) (some fees)] := by
  cases submitted with
  | unprepared _ error prepared =>
      exact .inl prepared.sentRequests_eq_nil
  | rejected before time limit fees cause prepared =>
      refine .inr ⟨limit, fees, ?_⟩
      rw [sentRequests_append, prepared.sentRequests_eq_nil]
      rfl
  | accepted before time limit fees hash prepared =>
      refine .inr ⟨limit, fees, ?_⟩
      rw [sentRequests_append, prepared.sentRequests_eq_nil]
      rfl

end Requests

/-- Scaling an estimate of 64 bits by a percentage of 64 bits needs 128 bits, the limit 64. -/
theorem safeGasLimit_fits (estimate percent : UInt64) :
    estimate.toNat * percent.toNat < 2 ^ 128 ∧
      safeGasLimit estimate.toNat percent.toNat < 2 ^ 64 := by
  have estimateFits : estimate.toNat < 2 ^ 64 := estimate.toNat_lt
  have percentFits : percent.toNat < 2 ^ 64 := percent.toNat_lt
  constructor
  · calc
      estimate.toNat * percent.toNat < 2 ^ 64 * 2 ^ 64 := Nat.mul_lt_mul'' estimateFits percentFits
      _ = 2 ^ 128 := by rw [← Nat.pow_add]
  · rw [safeGasLimit]
    omega

/--
An estimate makes a dry run and prices the write, and sends nothing. A submission sends the
transaction that its write describes or nothing, with the gas limit and the fees that it was
prepared with, calls nothing behind a failure, and hands out a handle that repeats what was sent.
No gas limit overflows on the way.
-/
theorem Client.submit_sends_described
    (client : Client σ)
    (write : PreparedWrite)
    (world : World σ) :
    (∃ exchanges,
        (client.estimate write world).2.history = world.history ++ exchanges ∧
          Estimated client write exchanges (client.estimate write world).1 ∧
          sentRequests exchanges = []) ∧
      (∃ exchanges,
        (client.submit write world).2.history = world.history ++ exchanges ∧
          Submitted client write exchanges (client.submit write world).1 ∧
          FailsLast exchanges ∧
          (sentRequests exchanges = [] ∨
            ∃ limit fees,
              sentRequests exchanges = [client.described write (some limit) (some fees)])) ∧
      ∀ estimate percent : UInt64,
        estimate.toNat * percent.toNat < 2 ^ 128 ∧
          safeGasLimit estimate.toNat percent.toNat < 2 ^ 64 := by
  refine ⟨?_, ?_, safeGasLimit_fits⟩
  · obtain ⟨exchanges, added, estimated⟩ := client.estimated_estimate write world
    exact ⟨exchanges, added, estimated, estimated.sentRequests_eq_nil⟩
  · obtain ⟨exchanges, added, submitted, sending⟩ :=
      (client.submitted_submit write world).and (client.sending_submitWith write none world)
    exact ⟨exchanges, added, submitted, sending.failsLast, submitted.sentRequests_eq⟩

end ContractGateway
