import ContractGateway.Proofs.Batch.Reverting
import ContractGateway.Proofs.Revert.Reasons
import ContractGateway.Proofs.Transaction.DryRun

/-!
# What reverts are reported with

Revert data reach the caller in two ways: a batch of reads has them as they are, and a dry run finds
them in the text of an error answer. `Revert.reasons_survive` says that both give the same reason
for the same data, and just the text when the data carry one. `Revert.reasons_nonempty` says that
neither leaves the caller without a reason.
-/

namespace ContractGateway

section Estimates

variable {σ α β : Type} {client : Client σ} {write : PreparedWrite} {world : World σ}

/-- Only a refused dry run that counts as a revert made a result report one. -/
def Client.RevertsBy
    (client : Client σ)
    (write : PreparedWrite)
    (world : World σ)
    (result : Except GatewayError α) : Prop :=
  ∀ label reason,
    result = .error (.simulationReverted label reason) →
    ∃ cause,
      client.Refuses write world cause ∧
        FailureKind.ofError cause = .reverted ∧
        label = write.label ∧ reason = Revert.reasonOfError client.parsers cause

theorem Client.Refuses.revertsBy
    {cause : TransportError}
    (refuses : client.Refuses write world cause) :
    client.RevertsBy (α := α) write world (.error (write.dryRunError client.parsers cause)) := by
  intro label reason same
  have reports := Except.error.inj same
  by_cases classified : FailureKind.ofError cause = .reverted
  · rw [PreparedWrite.dryRunError, classified] at reports
    obtain ⟨rfl, rfl⟩ := GatewayError.simulationReverted.inj reports
    exact ⟨cause, refuses, classified, rfl, rfl⟩
  · rw [PreparedWrite.dryRunError_of_ne_reverted classified] at reports
    cases reports

/-- An error that is passed on keeps its cause. -/
theorem Client.RevertsBy.passOn
    {error : GatewayError}
    (reverts : client.RevertsBy (α := α) write world (.error error)) :
    client.RevertsBy (α := β) write world (.error error) := by
  rintro label reason ⟨⟩
  exact reverts label reason rfl

namespace Client

variable (client) (write)

theorem yields_estimate_revertsBy (world : World σ) :
    Process.Yields (client.estimate write) world fun _ result _ =>
      client.RevertsBy write world result := by
  apply (Process.Yields.ask client.ledger _ world).bind
  rintro dryRun answer middle ⟨-, answered, -⟩
  cases answer with
  | error cause =>
      exact .pure (Refuses.revertsBy answered.symm)
  | ok gas =>
      apply (FeePolicy.yields_resolve client.ledger _ write.options.fees middle).bind
      rintro feesAsked pricing final -
      cases pricing <;> exact .pure (by rintro label reason ⟨⟩)

/-- A submission reports a simulated revert only when the dry run before it was refused as one. -/
theorem yields_submit_revertsBy (world : World σ) :
    Process.Yields (client.submit write) world fun _ result _ =>
      client.RevertsBy write world result := by
  have priced :
      Process.Yields (client.gasAndFees write) world fun _ result _ =>
        client.RevertsBy write world result := by
    unfold gasAndFees
    cases write.options.gasLimit with
    | some limit =>
        apply (FeePolicy.yields_resolve client.ledger _ write.options.fees world).bind
        rintro feesAsked pricing final -
        cases pricing <;> exact .pure (by rintro label reason ⟨⟩)
    | none =>
        apply (client.yields_estimate_revertsBy write world).bind
        rintro estimated report final reverts
        cases report with
        | error error =>
            exact .pure reverts.passOn
        | ok report =>
            exact .pure (by rintro label reason ⟨⟩)
  apply priced.bind
  rintro before found middle reverts
  cases found with
  | error error =>
      exact .pure reverts.passOn
  | ok found =>
      apply (Process.Yields.ask client.ledger _ middle).bind
      rintro sending answer final -
      cases answer <;> exact .pure (by rintro label reason ⟨⟩)

end Client

end Estimates

section Failures

/-- A failure of a batch is worded unless it is a revert without a reason. -/
theorem BatchFailure.message_ne_empty
    {cause : BatchFailure}
    (given : ∀ reason, cause = .reverted reason → reason ≠ "") :
    cause.message ≠ "" := by
  have behind {front : String} (filled : front ≠ "") (back : String) : front ++ back ≠ "" :=
    fun empty => filled (String.append_eq_empty_iff.mp empty).1
  cases cause with
  | headUnavailable cause => exact behind (by decide) _
  | roundTrip number cause => exact behind (behind (behind (by decide) _) _) _
  | resultCount number actual expected =>
      exact behind (behind (behind (behind (behind (behind (by decide) _) _) _) _) _) _
  | reverted reason => exact given reason rfl

/-- A batch does not fail without a word, whatever data its calls were reverted with. -/
theorem Batch.Reports.message_ne_empty
    {batch : Batch}
    {exchanges : List Exchange}
    {answer : Except GatewayError Results}
    {parsers : List Revert.ErrorParser}
    (speak : Revert.ParsersSpeak parsers)
    (reports : batch.Reports parsers exchanges answer)
    {index : Option Nat}
    {label : String}
    {cause : BatchFailure}
    (fails : answer = .error (.batch index label cause)) :
    cause.message ≠ "" := by
  refine BatchFailure.message_ne_empty fun reason reverted => ?_
  cases index with
  | none =>
      exact (reports.notReverted label cause fails reason reverted).elim
  | some index =>
      obtain ⟨before, failing, data, -, -, -, read⟩ := (reports.reverted_iff _ _ _).mp fails
      obtain rfl := BatchFailure.reverted.inj (read.trans reverted)
      exact Revert.reasonOfCall_ne_empty speak data

end Failures

namespace Revert

/-- Whichever way revert data reach the caller, they are reported with this reason. -/
structure ReportedAs
    (parsers : List ErrorParser)
    (data : Bytes)
    (reason : String) : Prop where
  /-- The first request of a batch to fail, when its call was reverted with the data. -/
  batched :
    ∀ {σ : Type} (ledger : Ledger σ) (maxCalls : Nat) (batch : Batch) (world : World σ),
      Process.Yields (batch.execute ledger parsers maxCalls) world fun exchanges answer _ =>
        ∀ before failing,
          batch.RevertsAt exchanges before failing data →
          answer.1 = .error (.batch (some before.length) failing.label (.reverted reason))
  /-- A dry run that the node refuses with the data as a JSON string of hexadecimal text. -/
  simulated :
    ∀ {σ : Type} (client : Client σ) (write : PreparedWrite) (world : World σ) (code : Int),
      client.parsers = parsers →
      client.Refuses write world
        (.response code "execution reverted" (some (Json.quotedString (Bytes.toHex data)))) →
      client.EndsUnsent write world (.simulationReverted write.label reason)
  /-- A dry run that the node refuses with the data in any other form that JSON has for them. -/
  simulatedAs :
    ∀ {σ : Type} (client : Client σ) (write : PreparedWrite) (world : World σ) (code : Int)
      (text : String),
      client.parsers = parsers →
      (TransportError.response code "execution reverted" (some text)).revertData? = some data →
      client.Refuses write world (.response code "execution reverted" (some text)) →
      client.EndsUnsent write world (.simulationReverted write.label reason)

/-- A refusal that is worded as a revert ends with the reason that its data give. -/
theorem endsUnsent_of_revertData?
    {σ : Type}
    {client : Client σ}
    {write : PreparedWrite}
    {world : World σ}
    {code : Int}
    {text reason : String}
    {data : Bytes}
    (carries :
      (TransportError.response code "execution reverted" (some text)).revertData? = some data)
    (reads : reasonOfData? client.parsers data = some reason)
    (refuses : client.Refuses write world (.response code "execution reverted" (some text))) :
    client.EndsUnsent write world (.simulationReverted write.label reason) := by
  have decodes :
      (TransportError.response code "execution reverted" (some text)).decodedReason?
          client.parsers = some reason := by
    rw [TransportError.decodedReason?, carries]
    exact reads
  have worded : Text.mentions "execution reverted" "revert" = true := by decide +kernel
  have classified := (TransportError.reverted_iff_of_decodedReason? decodes).mpr (.inl worded)
  have ends := refuses.endsUnsent
  rw [PreparedWrite.dryRunError, classified,
    TransportError.reasonOfError_of_decodedReason? decodes] at ends
  exact ends

/-- Data that can be read are reported with what they are read as. -/
theorem reportedAs_of_reasonOfData?
    {parsers : List ErrorParser}
    {data : Bytes}
    {reason : String}
    (reads : reasonOfData? parsers data = some reason) :
    ReportedAs parsers data reason where
  batched ledger maxCalls batch world := by
    refine (Batch.yields_execute_reports ledger parsers maxCalls batch world).weaken ?_
    intro exchanges answer final reports before failing reverts
    refine (reports.reverted_iff _ _ _).mpr ⟨before, failing, data, reverts, rfl, rfl, ?_⟩
    rw [reasonOfCall, reads]
    rfl
  simulated client write world code linked := by
    subst linked
    exact endsUnsent_of_revertData? (TransportError.revertData?_hex code _ data) reads
  simulatedAs client write world code text linked carries := by
    subst linked
    exact endsUnsent_of_revertData? carries reads

/--
Reasons reach the caller unchanged. Data that carry a text other than the empty one are reported
with exactly this text, whatever its characters, and all data that can be read are reported with the
same reason in both ways, whichever parsers are registered. The bound holds of all data that a
machine can hold: a text is written behind its length, which a reader takes in 64 bits.
-/
theorem reasons_survive (parsers : List ErrorParser) :
    (∀ reason : String,
        reason ≠ "" →
        (errorData reason).length < 2 ^ 64 →
        ReportedAs parsers (errorData reason) reason) ∧
      ∀ data reason, reasonOfData? parsers data = some reason → ReportedAs parsers data reason :=
  ⟨fun _ nonempty countable =>
      reportedAs_of_reasonOfData? (reasonOfData?_errorData nonempty countable),
    fun _ _ reads => reportedAs_of_reasonOfData? reads⟩

/-- A node that refuses dry runs, and the calls with one call data, for the same reason. -/
def refusingLedger (reason : String) : Ledger Unit where
  defaultSender := none
  answer
    | .estimateGas _, _, state =>
        (.error (.response 3 "execution reverted"
          (some (Json.quotedString (Bytes.toHex (errorData reason))))), state)
    | .aggregate calls _, _, state =>
        (.ok (calls.map fun call =>
          if call.calldata = [2] then .failure (errorData reason) else .success call.calldata),
          state)
    | _, _, state => (.error .nullResponse, state)

/-- A read that is answered. -/
def answeredRead : Request := ⟨0, "first", [1], .bytes, .ok⟩

/-- A read that is reverted. -/
def revertedRead : Request := ⟨0, "second", [2], .bytes, .ok⟩

/-- A batch of both reads. -/
def bothReads : Batch where
  id := 1
  block := .number 9
  requests := [answeredRead, revertedRead]

/-- The second read is the first to fail, whatever the reason. -/
theorem revertsAt_revertedRead (parsers : List ErrorParser) (reason : String) :
    Process.Yields (bothReads.execute (refusingLedger reason) parsers 2) (.start ())
      fun exchanges _ _ =>
        bothReads.RevertsAt exchanges [answeredRead] revertedRead (errorData reason) := by
  let trip : Exchange :=
    ⟨0, .aggregate [answeredRead.call, revertedRead.call] 9,
      .ok [.success [1], .failure (errorData reason)]⟩
  have own : ∀ exchange ∈ [trip], exchange.outcomes = exchange.carried.map fun call =>
      if call.calldata = [2] then .failure (errorData reason) else .success call.calldata := by
    simp [trip, Exchange.outcomes, Exchange.carried, answeredRead, revertedRead, Request.call]
  refine ⟨[trip], rfl, rfl, ⟨[], rfl⟩, ?_, ?_, ?_⟩
  · exact List.forall_mem_singleton.mpr ⟨rfl, rfl⟩
  · refine List.forall_mem_singleton.mpr ⟨⟨.bytes, [1]⟩, .success [1], ?_, [1], [1], rfl, rfl, rfl⟩
    intro other
    rw [brought_iff own]
    exact and_iff_right List.mem_cons_self
  · exact ⟨trip, List.mem_cons_self, 1, rfl, rfl⟩

/-- A reason with characters of one byte up to four. -/
def lowBid : String := "bid < 5 ¥ (低い) 🪙"

/-- Such a reason comes back unchanged from a dry run and from a batch. -/
theorem reasons_survive_multibyte :
    lowBid ≠ "" ∧
      (errorData lowBid).length < 2 ^ 64 ∧
      ((Client.mk (refusingLedger lowBid) {} [] 0).estimate bid (.start ())).1 =
        .error (.simulationReverted "auction.placeBid" lowBid) ∧
      (bothReads.execute (refusingLedger lowBid) [] 2 (.start ())).1.1 =
        .error (.batch (some 1) "second" (.reverted lowBid)) := by
  have nonempty : lowBid ≠ "" := by decide
  have countable : (errorData lowBid).length < 2 ^ 64 := by decide +kernel
  have reported := (reasons_survive []).1 lowBid nonempty countable
  refine ⟨nonempty, countable, ?_, ?_⟩
  · have ends := reported.simulated (.mk (refusingLedger lowBid) {} [] 0) bid (.start ()) 3 rfl rfl
    obtain ⟨-, -, estimated, -⟩ := ends.estimated
    exact estimated
  · obtain ⟨exchanges, -, fails, reverts⟩ :=
      (reported.batched (refusingLedger lowBid) 2 bothReads (.start ())).and
        (revertsAt_revertedRead [] lowBid)
    exact fails _ _ reverts

/--
Where no registered parser has an empty text, nothing is reported as a revert without a reason.
However a node words its refusal of a dry run, and whatever data come with it, the reason of the
simulated revert is not empty. Nor is what is reported of a batch, with whatever data its call was
reverted.
-/
theorem reasons_nonempty
    {σ : Type}
    {parsers : List ErrorParser}
    (speak : ParsersSpeak parsers) :
    (∀ (client : Client σ) (write : PreparedWrite) (world : World σ),
        client.parsers = parsers →
        (∀ label reason,
            (client.estimate write world).1 = .error (.simulationReverted label reason) ∨
              (client.submit write world).1 = .error (.simulationReverted label reason) →
            reason ≠ "") ∧
          ∀ cause,
            client.Refuses write world cause →
            FailureKind.ofError cause = .reverted →
            ∃ reason,
              reason ≠ "" ∧
                client.EndsUnsent write world (.simulationReverted write.label reason)) ∧
      ∀ (ledger : Ledger σ) (maxCalls : Nat) (batch : Batch) (world : World σ),
        Process.Yields (batch.execute ledger parsers maxCalls) world fun exchanges answer _ =>
          (∀ index label cause,
              answer.1 = .error (.batch index label cause) → cause.message ≠ "") ∧
            ∀ before failing data,
              batch.RevertsAt exchanges before failing data →
              ∃ reason,
                reason ≠ "" ∧
                  answer.1 =
                    .error (.batch (some before.length) failing.label (.reverted reason)) := by
  refine ⟨fun client write world linked => ?_, fun ledger maxCalls batch world => ?_⟩
  · subst linked
    refine ⟨fun label reason reported => ?_, fun cause refuses classified => ?_⟩
    · obtain ⟨-, -, estimated⟩ := client.yields_estimate_revertsBy write world
      obtain ⟨-, -, submitted⟩ := client.yields_submit_revertsBy write world
      obtain ⟨cause, -, -, -, rfl⟩ :=
        reported.elim (estimated label reason) (submitted label reason)
      exact reasonOfError_ne_empty speak cause
    · have ends := refuses.endsUnsent
      rw [PreparedWrite.dryRunError, classified] at ends
      exact ⟨reasonOfError client.parsers cause, reasonOfError_ne_empty speak cause, ends⟩
  · refine (Batch.yields_execute_reports ledger parsers maxCalls batch world).weaken ?_
    intro exchanges answer final reports
    refine ⟨fun index label cause fails => ?_, fun before failing data reverts => ?_⟩
    · exact reports.message_ne_empty speak fails
    · refine ⟨reasonOfCall parsers data, reasonOfCall_ne_empty speak data, ?_⟩
      exact (reports.reverted_iff _ _ _).mpr ⟨before, failing, data, reverts, rfl, rfl, rfl⟩

/-- With the parsers of the executable, data that carry an empty text are reported with a reason. -/
theorem reasons_nonempty_silent :
    let client : Client Unit :=
      { ledger := refusingLedger "", config := {}, parsers := linkedParsers }
    ParsersSpeak linkedParsers ∧
      (∃ reason,
        reason ≠ "" ∧
          client.EndsUnsent bid (.start ()) (.simulationReverted "auction.placeBid" reason)) ∧
      ∃ reason,
        reason ≠ "" ∧
          (bothReads.execute (refusingLedger "") linkedParsers 2 (.start ())).1.1 =
            .error (.batch (some 1) "second" (.reverted reason)) := by
  intro client
  have speak : ParsersSpeak linkedParsers := parsersSpeak_interfaces linkedInterfaces
  obtain ⟨simulated, batched⟩ := @reasons_nonempty Unit _ speak
  refine ⟨speak, ?_, ?_⟩
  · have worded : Text.mentions "execution reverted" "revert" = true := by decide +kernel
    have classified :=
      (FailureKind.ofError_eq_reverted_iff 3 "execution reverted"
        (TransportError.revertData?_hex 3 _ (errorData ""))).mpr (.inl worded)
    exact (simulated client bid (.start ()) rfl).2 _ rfl classified
  · obtain ⟨exchanges, -, ⟨-, reported⟩, reverts⟩ :=
      (batched (refusingLedger "") 2 bothReads (.start ())).and
        (revertsAt_revertedRead linkedParsers "")
    exact reported _ _ _ reverts

end Revert

end ContractGateway
