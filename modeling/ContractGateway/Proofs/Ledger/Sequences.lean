import ContractGateway.Proofs.Ledger.Treatment
import ContractGateway.Proofs.Transaction.Reporting

/-!
# How the in-memory ledger treats a sequence

The behaviors of the writes of a sequence decide how it ends on the in-memory ledger: it fails at
the first write that is not confirmed, and it sends up to the first that is refused, or, one at a
time, up to the first that is not confirmed (`Client.submitSequence_of_memory`). Nothing else
matters, neither the timeout nor what the ledger has taken before, as long as no failures are
injected and no two transactions have the same hash.
-/

namespace ContractGateway

open Memory

/-- The step that a sequence failed at. -/
def failedAt : Except SequenceFailure (List TransactionResult) → Option Nat
  | .ok _ => none
  | .error failure => some failure.index

/-- The results of the steps before it, which are all if there is none. -/
def reported : Except SequenceFailure (List TransactionResult) → List TransactionResult
  | .ok results => results
  | .error failure => failure.completed

/-- Of so many writes the first ones are reported as confirmed, and the next one has failed. -/
structure Accounts
    (count confirmed : Nat)
    (answer : Except SequenceFailure (List TransactionResult)) : Prop where
  failedAt : failedAt answer = if confirmed < count then some confirmed else none
  length : (reported answer).length = confirmed
  confirmed : ∀ result ∈ reported answer, result.isConfirmed = true

/-- A report accounts for the steps up to the first that is not confirmed. -/
theorem Reports.accounts
    {count : Nat}
    {steps : List SubmittedStep}
    {answer : Except SequenceFailure (List TransactionResult)}
    (reports : Reports count steps answer) :
    Accounts count (steps.findIdx (!·.result.isConfirmed)) answer := by
  cases reports with
  | confirmed all confirmed =>
      have last : steps.findIdx (!·.result.isConfirmed) = count := by
        rw [← all, List.findIdx_eq_length]
        simpa using confirmed
      refine ⟨?_, ?_, ?_⟩
      · rw [last, if_neg (Nat.lt_irrefl count)]
        rfl
      · rw [last, ← all]
        exact List.length_map _
      · simpa [reported] using confirmed
  | failed index cause within submitted confirmed unconfirmed =>
      have first : steps.findIdx (!·.result.isConfirmed) = index := by
        rcases Nat.eq_or_lt_of_le submitted with all | further
        · rw [all, List.findIdx_eq_length]
          rw [all, List.take_length] at confirmed
          simpa using confirmed
        · rw [List.findIdx_eq further]
          refine ⟨by simpa using unconfirmed _ (List.getElem?_eq_getElem further), ?_⟩
          intro earlier before
          have inside : steps[earlier] ∈ steps.take index :=
            List.mem_take_iff_getElem.mpr ⟨earlier, by omega, rfl⟩
          simpa using confirmed steps[earlier] inside
      refine ⟨?_, ?_, ?_⟩
      · rw [first, if_pos within]
        rfl
      · rw [first, reported, List.length_map, List.length_take_of_le submitted]
      · rintro _ member
        obtain ⟨step, inside, rfl⟩ := List.mem_map.mp member
        exact confirmed step inside

/-- A failure at the step behind the confirmed ones accounts for them. -/
theorem accounts_of_failure
    {done : List TransactionResult}
    (confirmed : ∀ result ∈ done, result.isConfirmed = true)
    {failure : SequenceFailure}
    (completed : failure.completed = done)
    (next : failure.index = done.length)
    (further : Nat) :
    Accounts (done.length + (further + 1)) done.length (.error failure) where
  failedAt := by
    rw [if_pos (by omega), ← next]
    rfl
  length := congrArg List.length completed
  confirmed := by
    rw [reported, completed]
    exact confirmed

/-- How many writes are sent, given the first that is not confirmed and the first refused. -/
def SequencePolicy.sends (failing refused : Nat) : SequencePolicy → Nat
  | .sequential => min (failing + 1) refused
  | .parallel => refused

/-- A write in front that is confirmed is sent as well. -/
theorem SequencePolicy.sequential_sends_succ (failing refused : Nat) :
    sequential.sends (failing + 1) (refused + 1) = sequential.sends failing refused + 1 :=
  Nat.succ_min_succ (failing + 1) refused

namespace Memory.State

/-- The write is submitted. -/
def accepts (state : State) (write : PreparedWrite) : Bool :=
  (state.behavior (Auction.callOf write)).isAccepted

/-- The write is submitted and confirmed at a depth. -/
def confirms (state : State) (required : Nat) (write : PreparedWrite) : Bool :=
  state.accepts write && (state.behavior (Auction.callOf write)).succeeds && decide (required = 1)

/-- In front of the first write that is refused all are confirmed as they are treated. -/
theorem findIdx_confirms
    (state : State)
    (required : Nat)
    (writes : List PreparedWrite) :
    List.findIdx (!·)
        ((writes.take (writes.findIdx (!state.accepts ·))).map fun write =>
          (state.behavior (Auction.callOf write)).succeeds && decide (required = 1)) =
      writes.findIdx (!state.confirms required ·) := by
  have sooner :
      writes.findIdx (!state.confirms required ·) ≤ writes.findIdx (!state.accepts ·) := by
    refine List.findIdx_le_findIdx fun write _ refused => ?_
    simp_all [confirms]
  have accepted :
      ∀ write ∈ writes.take (writes.findIdx (!state.accepts ·)), state.accepts write = true := by
    intro write member
    obtain ⟨place, within, rfl⟩ := List.mem_take_iff_getElem.mp member
    simpa using List.not_of_lt_findIdx (Nat.lt_of_lt_of_le within (Nat.min_le_left _ _))
  have same :
      ((writes.take (writes.findIdx (!state.accepts ·))).map fun write =>
          (state.behavior (Auction.callOf write)).succeeds && decide (required = 1)) =
        (writes.take (writes.findIdx (!state.accepts ·))).map (state.confirms required) := by
    refine List.map_congr_left fun write member => ?_
    rw [confirms, accepted write member, Bool.true_and]
  rw [same, List.findIdx_map]
  exact List.findIdx_take.trans (Nat.min_eq_right sooner)

/-- The write is dry-run, and its transaction is found at the first query or never. -/
structure Plain (state : State) (write : PreparedWrite) : Prop where
  unlimited : write.options.gasLimit = none
  prompt : (state.behavior (Auction.callOf write)).IsPrompt

variable {first second : State}

theorem Continues.accepts_eq (continues : first.Continues second) :
    second.accepts = first.accepts := by
  funext write
  rw [accepts, accepts, continues.behavior_eq]

theorem Continues.confirms_eq (continues : first.Continues second) :
    second.confirms = first.confirms := by
  funext required write
  rw [confirms, confirms, continues.behavior_eq, continues.accepts_eq]

theorem Continues.plain
    (continues : first.Continues second)
    {write : PreparedWrite}
    (plain : first.Plain write) :
    second.Plain write :=
  ⟨plain.unlimited, continues.behavior_eq ▸ plain.prompt⟩

end Memory.State

namespace Client

variable (sender : Option Address) (config : Config)

/--
A write that is taken is submitted and awaited. Unless some hash occurs twice, then or later, no
other transaction is found by its hash, and the wait confirms it exactly when it is treated so.
-/
theorem submitWith_await_of_memory
    {write : PreparedWrite}
    (timeout : Nat)
    {world : World State}
    (calm : world.ledger.IsCalm)
    (plain : world.ledger.Plain write)
    (accepted : world.ledger.accepts write = true) :
    ∃ handle middle,
      (client sender config).submitWith write none world = (.ok handle, middle) ∧
        let wait := (client sender config).await handle timeout middle
        world.ledger.Continues wait.2.ledger ∧
          wait.2.ledger.sent.map (·.call) =
            world.ledger.sent.map (·.call) ++ [Auction.callOf write] ∧
          ∀ final : State, wait.2.ledger.GrowsInto final → (final.sent.map (·.hash)).Nodup →
            wait.1.isConfirmed =
              world.ledger.confirms (max config.confirmation.confirmations 1) write := by
  obtain ⟨handle, sent, submitted, appended, hash, call, behavior, unplaced⟩ :=
    submitWith_accepted sender config plain.unlimited world accepted none
  have submitting : world.ledger.Continues _ :=
    (client sender config).develops_submitWith (State.develops_continues sender) write none world
  generalize (client sender config).submitWith write none world = result at *
  obtain ⟨_, middle⟩ := result
  subst submitted
  dsimp only at appended submitting
  have waiting : middle.ledger.Continues _ :=
    (client sender config).develops_await (State.develops_continues sender) handle timeout middle
  refine ⟨handle, middle, rfl, submitting.trans waiting, ?_, fun final grows distinct => ?_⟩
  · rw [calls_await, appended, List.map_append, ← call]
    rfl
  · have unique := (waiting.grows.trans grows).prefix_hashes.sublist.nodup distinct
    have present : sent ∈ middle.ledger.sent := by
      rw [appended]
      exact List.mem_append_right _ List.mem_cons_self
    have held := State.holder?_of_nodup unique present
    rw [← hash] at held
    rw [isConfirmed_await sender config (submitting.calm calm) held unplaced
        (behavior ▸ plain.prompt), behavior, State.confirms, accepted, Bool.true_and]

/-- A sequence that waits between its writes ends as these are treated. -/
theorem submitSequential_of_memory
    (timeout : Nat)
    (done : List TransactionResult)
    (confirmed : ∀ result ∈ done, result.isConfirmed = true)
    (writes : List PreparedWrite)
    (world : World State)
    (calm : world.ledger.IsCalm)
    (plain : ∀ write ∈ writes, world.ledger.Plain write)
    {answer : Except SequenceFailure (List TransactionResult)}
    {final : World State}
    (run :
      (client sender config).submitSequential timeout done.length done writes world =
        (answer, final))
    (distinct : (final.ledger.sent.map (·.hash)).Nodup) :
    let failing :=
      writes.findIdx (!world.ledger.confirms (max config.confirmation.confirmations 1) ·)
    let refused := writes.findIdx (!world.ledger.accepts ·)
    Accounts (done.length + writes.length) (done.length + failing) answer ∧
      final.ledger.sent.map (·.call) =
        world.ledger.sent.map (·.call) ++
          (writes.take (SequencePolicy.sequential.sends failing refused)).map Auction.callOf := by
  induction writes generalizing done world with
  | nil =>
      obtain ⟨rfl, rfl⟩ := Prod.mk.inj run
      exact ⟨⟨by simp [failedAt], by simp [reported], confirmed⟩, by simp⟩
  | cons write rest inductionHypothesis =>
      obtain ⟨plainFirst, others⟩ := List.forall_mem_cons.mp plain
      rw [submitSequential, Process.bind_apply, submit] at run
      cases accepted : world.ledger.accepts write with
      | false =>
          obtain ⟨⟨error, refused⟩, untouched⟩ :=
            submitWith_refused sender config plainFirst.unlimited world accepted none
          rw [refused] at run
          obtain ⟨rfl, rfl⟩ := Prod.mk.inj run
          have unconfirmed :
              world.ledger.confirms (max config.confirmation.confirmations 1) write = false := by
            simp [State.confirms, accepted]
          simp only [List.findIdx_cons, accepted, unconfirmed, Bool.not_false, cond_true,
            SequencePolicy.sends, Nat.min_zero, List.take_zero, List.map_nil, List.append_nil]
          exact ⟨accounts_of_failure confirmed rfl rfl rest.length, congrArg _ untouched⟩
      | true =>
          obtain ⟨handle, middle, submitted, continues, sentCalls, isConfirmed⟩ :=
            submitWith_await_of_memory sender config timeout calm plainFirst accepted
          rw [submitted] at run
          dsimp only at run
          rw [Process.bind_apply] at run
          generalize (client sender config).await handle timeout middle = wait at *
          obtain ⟨result, behind⟩ := wait
          dsimp only at run continues sentCalls isConfirmed
          cases ends : result.isConfirmed with
          | true =>
              rw [ends, if_pos rfl] at run
              have ending : behind.ledger.Continues _ :=
                (client sender config).develops_submitSequential (State.develops_continues sender)
                  timeout (done.length + 1) (done ++ [result]) rest behind
              rw [run] at ending
              have confirms := (isConfirmed _ ending.grows distinct).symm.trans ends
              have confirmedSoFar : ∀ earlier ∈ done ++ [result], earlier.isConfirmed = true := by
                simpa [or_imp, forall_and, ends] using confirmed
              have count : (done ++ [result]).length = done.length + 1 := List.length_append
              have later :=
                inductionHypothesis (done ++ [result]) confirmedSoFar behind (continues.calm calm)
                  (fun write member => continues.plain (others write member)) (count ▸ run)
              rw [continues.accepts_eq, continues.confirms_eq, sentCalls, count] at later
              simp only [List.findIdx_cons, accepted, confirms, Bool.not_true, cond_false]
              generalize rest.findIdx _ = failing at later ⊢
              generalize rest.findIdx _ = refused at later ⊢
              obtain ⟨accounts, calls⟩ := later
              rw [Nat.add_right_comm, Nat.add_right_comm done.length 1 failing] at accounts
              refine ⟨accounts, ?_⟩
              rw [calls, SequencePolicy.sequential_sends_succ, List.take_succ_cons, List.map_cons,
                List.append_assoc]
              rfl
          | false =>
              rw [ends, if_neg Bool.false_ne_true] at run
              obtain ⟨rfl, rfl⟩ := Prod.mk.inj run
              have unconfirmed := (isConfirmed _ (.refl _) distinct).symm.trans ends
              simp only [List.findIdx_cons, accepted, unconfirmed, Bool.not_false, Bool.not_true,
                cond_true, cond_false, SequencePolicy.sends]
              exact ⟨accounts_of_failure confirmed rfl rfl rest.length, by simpa using sentCalls⟩

/-- Every nonce that is asked for is found, and nothing is changed by it. -/
theorem assignNonce_of_memory
    (write : PreparedWrite)
    (nonces : NonceTable)
    (world : World State) :
    ∃ assigned,
      ((client sender config).assignNonce write nonces world).1 = .ok assigned ∧
        ((client sender config).assignNonce write nonces world).2.ledger = world.ledger := by
  unfold assignNonce
  cases write.options.nonce with
  | some nonce => exact ⟨_, rfl, rfl⟩
  | none =>
      cases (client sender config).sender write with
      | none => exact ⟨_, rfl, rfl⟩
      | some account =>
          cases known : nonces.lookup account with
          | some nonce =>
              simp only [known]
              exact ⟨_, rfl, rfl⟩
          | none =>
              simp only [known]
              exact ⟨_, rfl, rfl⟩

/-- Of writes that are submitted together those up to the first that is refused are taken. -/
theorem submitAll_of_memory
    (index : Nat)
    (nonces : NonceTable)
    (writes : List PreparedWrite)
    (world : World State)
    (plain : ∀ write ∈ writes, world.ledger.Plain write)
    {handles : List Handle}
    {stopped : Option (Nat × StepFailure)}
    {final : World State}
    (run :
      (client sender config).submitAll index nonces writes world =
        ((handles, stopped), final)) :
    ∃ added : List Memory.Sent,
      final.ledger.sent = world.ledger.sent ++ added ∧
        added.map (·.call) =
          (writes.take (writes.findIdx (!world.ledger.accepts ·))).map Auction.callOf ∧
        handles.map (·.hash) = added.map (·.hash) ∧
        ∀ sent ∈ added, sent.block = none ∧ sent.behavior = world.ledger.behavior sent.call := by
  induction writes generalizing index nonces world handles with
  | nil =>
      obtain ⟨found, rfl⟩ := Prod.mk.inj run
      obtain ⟨rfl, rfl⟩ := Prod.mk.inj found
      exact ⟨[], by simp⟩
  | cons write rest inductionHypothesis =>
      obtain ⟨⟨unlimited, prompt⟩, others⟩ := List.forall_mem_cons.mp plain
      rw [submitAll, Process.bind_apply] at run
      obtain ⟨assigned, given, same⟩ :=
        assignNonce_of_memory sender config write nonces world
      generalize (client sender config).assignNonce write nonces world = assignment at *
      obtain ⟨_, present⟩ := assignment
      subst given
      dsimp only at run same
      rw [Process.bind_apply] at run
      rw [← same] at plain others prompt ⊢
      cases accepted : present.ledger.accepts write with
      | false =>
          obtain ⟨⟨error, refused⟩, untouched⟩ :=
            submitWith_refused sender config unlimited present accepted assigned.1
          rw [refused] at run
          obtain ⟨found, rfl⟩ := Prod.mk.inj run
          obtain ⟨rfl, rfl⟩ := Prod.mk.inj found
          refine ⟨[], by rw [untouched, List.append_nil], ?_, rfl, by simp⟩
          simp [List.findIdx_cons, accepted]
      | true =>
          obtain ⟨handle, sent, submitted, appended, hash, call, behavior, unplaced⟩ :=
            submitWith_accepted sender config unlimited present accepted assigned.1
          have submitting : present.ledger.Continues _ :=
            (client sender config).develops_submitWith (State.develops_continues sender) write
              assigned.1 present
          generalize (client sender config).submitWith write assigned.1 present = result at *
          obtain ⟨_, middle⟩ := result
          subst submitted
          dsimp only at run appended submitting
          rw [Process.bind_apply] at run
          generalize submittedRest :
            (client sender config).submitAll (index + 1) assigned.2 rest middle = further at run
          obtain ⟨⟨more, stoppedRest⟩, last⟩ := further
          obtain ⟨found, rfl⟩ := Prod.mk.inj run
          obtain ⟨rfl, rfl⟩ := Prod.mk.inj found
          obtain ⟨added, sentRest, calls, hashes, fresh⟩ :=
            inductionHypothesis (index + 1) assigned.2 middle
              (fun write member => submitting.plain (others write member)) submittedRest
          rw [submitting.accepts_eq] at calls
          refine ⟨sent :: added, ?_, ?_, ?_, ?_⟩
          · rw [sentRest, appended, List.append_assoc]
            rfl
          · simp [List.findIdx_cons, accepted, calls, call]
          · rw [List.map_cons, List.map_cons, hash, hashes]
          · refine List.forall_mem_cons.mpr ⟨⟨unplaced, by rw [behavior, call]⟩, ?_⟩
            rw [← submitting.behavior_eq]
            exact fresh

/-- Of transactions that are awaited together each is confirmed as it is treated. -/
theorem awaitAll_of_memory
    (deadline index : Nat)
    (handles : List Handle)
    (pending : List Memory.Sent)
    (hashes : handles.map (·.hash) = pending.map (·.hash))
    (distinct : (pending.map (·.hash)).Nodup)
    (world : World State)
    (calm : world.ledger.IsCalm)
    (held : ∀ sent ∈ pending, world.ledger.holder? sent.hash = some sent)
    (fresh : ∀ sent ∈ pending, sent.block = none ∧ sent.behavior.IsPrompt) :
    ((client sender config).awaitAll deadline index handles world).1.map (·.result.isConfirmed) =
        pending.map (fun sent =>
          sent.behavior.succeeds && decide (max config.confirmation.confirmations 1 = 1)) ∧
      ((client sender config).awaitAll deadline index handles world).2.ledger.sent.map (·.call) =
        world.ledger.sent.map (·.call) := by
  induction handles generalizing index pending world with
  | nil =>
      obtain rfl : pending = [] := List.map_eq_nil_iff.mp hashes.symm
      exact ⟨rfl, rfl⟩
  | cons handle rest inductionHypothesis =>
      cases pending with
      | nil => cases hashes
      | cons sent others =>
          simp only [List.map_cons, List.cons.injEq, List.nodup_cons] at hashes distinct
          obtain ⟨hash, hashesRest⟩ := hashes
          obtain ⟨different, distinctRest⟩ := distinct
          obtain ⟨heldFirst, heldRest⟩ := List.forall_mem_cons.mp held
          obtain ⟨⟨unplaced, prompt⟩, freshRest⟩ := List.forall_mem_cons.mp fresh
          rw [← hash] at heldFirst different
          let left := deadline - world.now
          have confirmed := isConfirmed_await sender config calm heldFirst unplaced prompt left
          have calls := calls_await sender config handle left world
          have waiting : world.ledger.Continues _ :=
            (client sender config).develops_await (State.develops_continues sender) handle left
              world
          have heldBehind :
              ∀ sent ∈ others,
                ((client sender config).await handle left world).2.ledger.holder? sent.hash =
                  some sent := by
            intro other member
            have apart : other.hash ≠ handle.hash := by
              intro same
              exact different (same ▸ List.mem_map_of_mem member)
            rw [holder?_await sender config apart, heldRest other member]
          have later :=
            inductionHypothesis (index + 1) others hashesRest distinctRest
              ((client sender config).await handle left world).2 (waiting.calm calm) heldBehind
              freshRest
          exact ⟨congrArg₂ List.cons confirmed later.1, later.2.trans calls⟩

/-- The transactions of writes are treated as these are. -/
theorem map_behavior_of_calls
    {α : Type}
    {state : State}
    {added : List Memory.Sent}
    {writes : List PreparedWrite}
    (calls : added.map (·.call) = writes.map Auction.callOf)
    (treated : ∀ sent ∈ added, sent.behavior = state.behavior sent.call)
    (value : Behavior → α) :
    added.map (value ·.behavior) =
      writes.map fun write => value (state.behavior (Auction.callOf write)) := by
  have same := congrArg (List.map (value <| state.behavior ·)) calls
  rw [List.map_map, List.map_map] at same
  refine Eq.trans ?_ same
  exact List.map_congr_left fun sent member => congrArg value (treated sent member)

/-- A sequence that submits everything at once ends as its writes are treated. -/
theorem submitParallel_of_memory
    (timeout : Nat)
    (writes : List PreparedWrite)
    (world : World State)
    (calm : world.ledger.IsCalm)
    (plain : ∀ write ∈ writes, world.ledger.Plain write)
    (distinct :
      (((client sender config).submitParallel timeout writes world).2.ledger.sent.map
        (·.hash)).Nodup) :
    let failing :=
      writes.findIdx (!world.ledger.confirms (max config.confirmation.confirmations 1) ·)
    let refused := writes.findIdx (!world.ledger.accepts ·)
    Accounts writes.length failing ((client sender config).submitParallel timeout writes world).1 ∧
      ((client sender config).submitParallel timeout writes world).2.ledger.sent.map (·.call) =
        world.ledger.sent.map (·.call) ++ (writes.take refused).map Auction.callOf := by
  intro failing refused
  obtain ⟨_, -, submissions⟩ := (client sender config).yields_submitAll 0 [] writes world
  have submitting : world.ledger.Continues _ :=
    (client sender config).develops_submitAll (State.develops_continues sender) 0 [] writes world
  have behind := submissions.stoppedBehind
  rw [submitParallel, Process.bind_apply] at distinct ⊢
  generalize run : (client sender config).submitAll 0 [] writes world = result at *
  obtain ⟨⟨handles, stopped⟩, middle⟩ := result
  obtain ⟨added, sent, calls, hashes, fresh⟩ :=
    submitAll_of_memory sender config 0 [] writes world plain run
  let deadline := middle.now + timeout
  have waiting : middle.ledger.Continues _ :=
    (client sender config).develops_awaitAll (State.develops_continues sender) deadline 0 handles
      middle
  obtain ⟨_, -, -, same, awaited⟩ :=
    (client sender config).yields_awaitAll deadline 0 handles middle
  have unique := waiting.grows.prefix_hashes.sublist.nodup distinct
  have held : ∀ sent ∈ added, middle.ledger.holder? sent.hash = some sent := by
    intro one member
    exact State.holder?_of_nodup unique (sent ▸ List.mem_append_right _ member)
  have prompt : ∀ sent ∈ added, sent.block = none ∧ sent.behavior.IsPrompt := by
    intro one member
    obtain ⟨unplaced, behavior⟩ := fresh one member
    obtain ⟨write, taken, call⟩ := List.mem_map.mp (calls ▸ List.mem_map_of_mem member)
    rw [behavior, ← call]
    exact ⟨unplaced, (plain write (List.mem_of_mem_take taken)).prompt⟩
  rw [sent, List.map_append] at unique
  obtain ⟨confirmations, callsBehind⟩ :=
    awaitAll_of_memory sender config deadline 0 handles added hashes unique.of_append_right middle
      (submitting.calm calm) held prompt
  have length := congrArg List.length same
  rw [List.length_map] at length
  have accounts := (reports_reportSteps awaited (length ▸ behind)).accounts
  have treated :=
    map_behavior_of_calls calls (fun one member => (fresh one member).2) fun behavior =>
      behavior.succeeds && decide (max config.confirmation.confirmations 1 = 1)
  have first :
      List.findIdx (!·.result.isConfirmed)
        ((client sender config).awaitAll deadline 0 handles middle).1 = failing := by
    refine Eq.trans ?_ (world.ledger.findIdx_confirms _ writes)
    rw [← treated, ← confirmations, List.findIdx_map]
    rfl
  rw [first] at accounts
  refine ⟨accounts, callsBehind.trans ?_⟩
  rw [sent, List.map_append, calls]

/--
A sequence on the in-memory ledger fails at its first write that is not confirmed. Those that it
sends are the ones in front of the first that is refused, or, one at a time, of them those up to the
first that is not confirmed.
-/
theorem submitSequence_of_memory
    (policy : SequencePolicy)
    (timeout : Nat)
    (writes : List PreparedWrite)
    (world : World State)
    (calm : world.ledger.IsCalm)
    (plain : ∀ write ∈ writes, world.ledger.Plain write)
    (distinct :
      (((client sender config).submitSequence policy timeout writes world).2.ledger.sent.map
        (·.hash)).Nodup) :
    let failing :=
      writes.findIdx (!world.ledger.confirms (max config.confirmation.confirmations 1) ·)
    let refused := writes.findIdx (!world.ledger.accepts ·)
    Accounts writes.length failing
        ((client sender config).submitSequence policy timeout writes world).1 ∧
      ((client sender config).submitSequence policy timeout writes world).2.ledger.sent.map
          (·.call) =
        world.ledger.sent.map (·.call) ++
          (writes.take (policy.sends failing refused)).map Auction.callOf := by
  cases policy with
  | sequential =>
      have treated :=
        submitSequential_of_memory sender config timeout [] (by simp) writes world calm plain rfl
          distinct
      simpa [submitSequence] using treated
  | parallel =>
      exact submitParallel_of_memory sender config timeout writes world calm plain distinct

end Client

end ContractGateway
