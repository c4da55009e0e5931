import ContractGateway.Proofs.Transaction.Deadline
import ContractGateway.Proofs.Transaction.Reporting

/-!
# Steps that share a deadline do not starve each other

The steps of a sequence that is submitted at once are awaited one after another, so a step that
never settles uses up all the time there is, and the steps behind it are left with none. They lose
nothing by it. A wait over a ledger that tells a timeline comes to how its transaction stands at the
deadline, whenever it begins, and a wait without any time left still makes the one poll that tells
this. Each step is thus reported as it stands at the shared deadline: `Client.awaitAll_of_follows`
goes through the handles, and what it keeps from one wait to the next is that time has not run past
the deadline.
-/

namespace ContractGateway

variable {σ : Type}

/-- The receipts of all transactions and the newest block, as time passes. -/
structure Chain where
  receipt : Hash → Nat → Option Receipt
  head : Nat → Nat
  receipt_stays :
    ∀ {hash : Hash} {earlier later : Nat} {found : Receipt},
      earlier ≤ later → receipt hash earlier = some found → receipt hash later = some found
  head_mono : ∀ {earlier later : Nat}, earlier ≤ later → head earlier ≤ head later

namespace Chain

/-- What a chain holds for one transaction. -/
def timeline (chain : Chain) (hash : Hash) : Timeline where
  receipt := chain.receipt hash
  head := chain.head
  receipt_stays := chain.receipt_stays
  head_mono := chain.head_mono

/-- The result of a step whose transaction stands as it does at a moment. -/
def result (chain : Chain) (required moment : Nat) (handle : Handle) : TransactionResult :=
  ⟨handle.hash, handle.label, (chain.timeline handle.hash).outcome required moment⟩

end Chain

/-- The results that an answer hands back, of all steps that reached the ledger. -/
def reportedResults : Except SequenceFailure (List TransactionResult) → List TransactionResult
  | .ok results => results
  | .error failure =>
      failure.completed ++ (failure.failed.toList ++ failure.unreported).map (·.result)

/-- Whatever made a sequence stop, the results of all its steps are handed back in order. -/
theorem reportedResults_reportSteps
    (steps : List SubmittedStep)
    (stopped : Option (Nat × StepFailure)) :
    reportedResults (reportSteps steps stopped) = steps.map (·.result) := by
  obtain ⟨-, split⟩ := splitAtUnconfirmed_spec steps
  rw [reportSteps]
  generalize splitAtUnconfirmed steps = parts at split ⊢
  obtain ⟨confirmed, found⟩ := parts
  dsimp only at split ⊢
  cases found with
  | some found =>
      obtain ⟨step, rest⟩ := found
      obtain ⟨rfl, -⟩ := split
      simp [reportedResults]
  | none =>
      obtain rfl : steps = confirmed := split
      cases stopped with
      | some failure => simp [reportedResults]
      | none => rfl

/-- Handles of accepted sends stand in the order of their writes. -/
theorem Sent.labels
    {client : Client σ}
    {writes : List PreparedWrite}
    {accepted : List (TransactionRequest × Hash)}
    {handles : List Handle}
    (sent : Sent client writes accepted handles) :
    handles.map (·.label) = (writes.take handles.length).map (·.label) := by
  induction sent with
  | done unsent =>
      rfl
  | next write rest assigned limit pricing hash accepted handles sent inductionHypothesis =>
      exact congrArg (write.label :: ·) inductionHypothesis

namespace Client

variable (client : Client σ)

/-- Polls that take no time leave a wait within its deadline. -/
theorem PollsSteadily.timely
    {client : Client σ}
    {hash : Hash}
    {deadline : Nat}
    {steady : World σ → Prop}
    {property : PollRecord → Prop}
    (steadily : client.PollsSteadily hash deadline steady property)
    (instant : ∀ poll, property poll → poll.ended = poll.began) :
    client.PollsSteadily hash deadline
      (fun world => steady world ∧ world.now ≤ deadline) property where
  polls world := by
    rintro ⟨holds, early⟩
    apply (steadily.polls world holds).weaken
    rintro exchanges result final ⟨found, same, made, kept, goesOn⟩
    have still : final.now = world.now := instant _ kept
    exact ⟨found, same, made, kept, goesOn, still ▸ early⟩
  passes world moment inTime := by
    rintro ⟨holds, early⟩
    exact ⟨steadily.passes world moment inTime holds, Nat.max_le.mpr ⟨early, inTime⟩⟩

section Awaiting

variable
  {chain : Chain} {deadline : Nat} {states : σ → Prop} {world : World σ}

/--
With whatever time is left, a wait ends by the deadline and with how its transaction stands there.
-/
theorem await_rest_of_follows
    {client : Client σ}
    (handle : Handle)
    (paced : 1 ≤ client.config.confirmation.pollInterval)
    (follows : client.ledger.Follows (chain.timeline handle.hash) handle.hash deadline states)
    (begins : states world.ledger)
    (early : world.now ≤ deadline) :
    let wait := client.await handle (deadline - world.now) world
    wait.1 = chain.result (max client.config.confirmation.confirmations 1) deadline handle ∧
      states wait.2.ledger ∧ wait.2.now ≤ deadline := by
  intro wait
  have due : world.now + (deadline - world.now) = deadline := Nat.add_sub_of_le early
  have ends := client.await_of_follows handle (deadline - world.now) paced
    (due.symm ▸ follows) begins
  rw [due] at ends
  have steadily :=
    (client.pollsSteadily_of_follows follows).timely fun _ polled => polled.instant
  rw [← due] at steadily
  obtain ⟨_, -, -, -, _, -, -, -, goesOn, inTime⟩ :=
    client.yields_await_of steadily ⟨begins, Nat.le_add_right _ _⟩
  exact ⟨ends, goesOn, due ▸ inTime⟩

/-- Handles that are awaited against one deadline all end with how they stand there. -/
theorem awaitAll_of_follows
    {client : Client σ}
    (paced : 1 ≤ client.config.confirmation.pollInterval)
    (follows :
      ∀ hash, client.ledger.Follows (chain.timeline hash) hash deadline states)
    (index : Nat)
    (handles : List Handle)
    (begins : states world.ledger)
    (early : world.now ≤ deadline) :
    let waits := client.awaitAll deadline index handles world
    waits.1.map (·.result) =
        handles.map (chain.result (max client.config.confirmation.confirmations 1) deadline) ∧
      waits.2.now ≤ deadline := by
  induction handles generalizing index world with
  | nil =>
      exact ⟨rfl, early⟩
  | cons handle rest inductionHypothesis =>
      obtain ⟨ends, goesOn, inTime⟩ :=
        await_rest_of_follows handle paced (follows handle.hash) begins early
      obtain ⟨others, expired⟩ := inductionHypothesis (index + 1) goesOn inTime
      refine ⟨?_, expired⟩
      exact congr (congrArg List.cons ends) others

end Awaiting

/--
Writes that are submitted at once are awaited until a timeout after the last submission at the
latest, and each one that reached the ledger is reported as a single poll at that deadline finds it:
it counts how its own transaction stands there, and neither the other writes nor their order.
-/
theorem submitParallel_at_deadline
    (timeout : Nat)
    (writes : List PreparedWrite)
    (world : World σ)
    (chain : Chain)
    (states : σ → Prop)
    (paced : 1 ≤ client.config.confirmation.pollInterval)
    (follows :
      ∀ hash,
        client.ledger.Follows (chain.timeline hash) hash
          ((client.submitAll 0 [] writes world).2.now + timeout) states)
    (begins : states (client.submitAll 0 [] writes world).2.ledger) :
    let submitted := client.submitAll 0 [] writes world
    let deadline := submitted.2.now + timeout
    let required := max client.config.confirmation.confirmations 1
    let run := client.submitSequence .parallel timeout writes world
    run.2.now ≤ deadline ∧
      (submitted.1.2 = none → submitted.1.1.map (·.label) = writes.map (·.label)) ∧
      reportedResults run.1 = submitted.1.1.map (chain.result required deadline) ∧
      ∀ handle ∈ submitted.1.1, ∀ state log, states state →
        ((client.poll none handle.hash).run ⟨deadline, state, log⟩).1.map Poll.outcome =
          some (chain.result required deadline handle).outcome := by
  intro submitted deadline required run
  obtain ⟨results, expired⟩ :=
    awaitAll_of_follows paced follows 0 submitted.1.1 begins (Nat.le_add_right _ timeout)
  have answer :
      run.1 = reportSteps (client.awaitAll deadline 0 submitted.1.1 submitted.2).1 submitted.1.2 :=
    rfl
  refine ⟨expired, ?_, ?_, ?_⟩
  · intro accepted
    obtain ⟨_, -, submissions⟩ := client.yields_submitAll 0 [] writes world
    have stopped := submissions.stoppedBehind
    rw [accepted] at stopped
    have all : submitted.1.1.length = writes.length := stopped
    rw [submissions.sent.labels, all, List.take_length]
  · rw [answer, reportedResults_reportSteps, results]
  · intro handle _ state log holds
    exact client.poll_of_follows (follows handle.hash) holds log

end Client

/-- A chain that never includes one transaction and includes another one after a while. -/
def stalledChain : Chain where
  receipt hash moment :=
    if hash = 2 ∧ 250 ≤ moment then some ⟨hash, 100, 21000, 1, true⟩ else none
  head := slowTimeline.head
  receipt_stays order seen := by
    split at seen
    · rename_i included
      rw [if_pos ⟨included.1, Nat.le_trans included.2 order⟩]
      exact seen
    · cases seen
  head_mono := slowTimeline.head_mono

/-- A ledger that numbers the transactions it takes and tells this chain. -/
def stalledLedger : Ledger Nat where
  defaultSender := none
  answer
    | .send _, _, taken => (.ok (BitVec.ofNat 256 (taken + 1)), taken + 1)
    | .receipt hash, moment, taken => (.ok (stalledChain.receipt hash moment), taken)
    | .blockNumber, moment, taken => (.ok (stalledChain.head moment), taken)
    | _, _, taken => (.error .backendGone, taken)

theorem stalledLedger_follows
    (hash : Hash)
    (deadline : Nat) :
    stalledLedger.Follows (stalledChain.timeline hash) hash deadline fun _ => True where
  receipt := ⟨fun _ _ _ => rfl, fun _ _ _ => .told, fun _ _ _ => trivial⟩
  head := ⟨fun _ _ _ => rfl, fun _ _ _ => .told, fun _ _ _ => trivial⟩

/-- A write that needs neither a dry run nor fees nor a nonce from the ledger. -/
def readyWrite (label : String) : PreparedWrite where
  target := 0x10
  label := label
  calldata := []
  options := { gasLimit := some 90000, fees := .fixed (.legacy 1) }

/-- A write that is deep enough at the deadline is confirmed behind one that is never included. -/
theorem stalledLedger_confirms_behind :
    let client : Client Nat :=
      { ledger := stalledLedger
        config := { confirmation := { pollInterval := 100, confirmations := 3 } } }
    let writes := [readyWrite "stalled", readyWrite "included"]
    let run := client.submitSequence .parallel 1000 writes (World.start 0)
    1 ≤ client.config.confirmation.pollInterval ∧
      (∀ hash,
        client.ledger.Follows (stalledChain.timeline hash) hash
          ((client.submitAll 0 [] writes (World.start 0)).2.now + 1000) fun _ => True) ∧
      reportedResults run.1 =
        [⟨1, "stalled", .timedOut⟩, ⟨2, "included", .confirmed ⟨2, 100, 21000, 1, true⟩⟩] := by
  intro client writes run
  have paced : 1 ≤ client.config.confirmation.pollInterval := by decide
  have follows := fun hash =>
    stalledLedger_follows hash ((client.submitAll 0 [] writes (World.start 0)).2.now + 1000)
  obtain ⟨-, -, reported, -⟩ :=
    client.submitParallel_at_deadline 1000 writes (World.start 0) stalledChain (fun _ => True)
      paced follows trivial
  refine ⟨paced, follows, reported.trans ?_⟩
  decide +kernel

end ContractGateway
