import ContractGateway.Proofs.Transaction.Sightings

/-!
# When a wait is settled

A poll settles its wait when the receipt that it was answered with has failed, when a single block
is enough, or when enough blocks lie on top of the receipt. `PollRecord.Settles` says so about the
answers of one poll, in integers, where a receipt above the newest block has no depth.

A wait ends with its first poll that settles it, and it ends as confirmed or reverted in no other
way: `Watch.Course.settled_or_open` goes through a course poll by poll, and the statements about
whole waits are read off it.
-/

namespace ContractGateway

namespace Exchange

/-- The newest block that a lookup was answered with. -/
def head? : Exchange → Option Nat
  | ⟨_, .blockNumber, .ok head⟩ => some head
  | _ => none

end Exchange

/-- The outcome of a wait that a receipt settles. -/
def Receipt.outcome (receipt : Receipt) : Outcome :=
  if receipt.succeeded then .confirmed receipt else .reverted receipt

theorem Receipt.isTerminal_outcome (receipt : Receipt) : receipt.outcome.isTerminal = true := by
  rw [outcome]
  split <;> rfl

namespace PollRecord

/-- The newest block that the poll was told. -/
def head? (poll : PollRecord) : Option Nat :=
  poll.exchanges.findSome? Exchange.head?

/--
The poll obtained a receipt that settles the wait: a failed one, or a successful one that a single
block suffices for or that lies deep enough below the newest block.
-/
def Settles (required : Nat) (poll : PollRecord) (receipt : Receipt) : Prop :=
  poll.seen? = some receipt ∧
    (receipt.succeeded = false ∨
      (receipt.succeeded = true ∧ required = 1) ∨
        (receipt.succeeded = true ∧
          ∃ head, poll.head? = some head ∧ (required : Int) ≤ head + 1 - receipt.block))

end PollRecord

namespace Poll

/-- A receipt stays open by itself when it is successful and more than its own block is wanted. -/
theorem ofReceipt_eq_none_iff
    (required : Nat)
    (receipt : Receipt) :
    ofReceipt required receipt = none ↔ receipt.succeeded = true ∧ required ≠ 1 := by
  rw [ofReceipt]
  cases receipt.succeeded <;> simp

/-- A receipt that settles by itself has failed, or its own block is enough. -/
theorem settled_of_ofReceipt
    {required : Nat}
    {receipt : Receipt}
    {found : Poll}
    (settles : ofReceipt required receipt = some found) :
    found = .settled receipt.outcome ∧
      (receipt.succeeded = false ∨ receipt.succeeded = true ∧ required = 1) := by
  rw [ofReceipt] at settles
  rw [Receipt.outcome]
  cases succeeded : receipt.succeeded with
  | false =>
      rw [succeeded] at settles
      exact ⟨(Option.some.inj settles).symm, .inl rfl⟩
  | true =>
      rw [succeeded] at settles
      by_cases single : required = 1
      · subst single
        exact ⟨(Option.some.inj settles).symm, .inr ⟨rfl, rfl⟩⟩
      · simp [single] at settles

/-- A successful receipt is settled by a head exactly when it lies deep enough, in integers. -/
theorem ofDepth_eq_settled_iff
    {required : Nat}
    (positive : 1 ≤ required)
    {receipt : Receipt}
    (succeeded : receipt.succeeded = true)
    (head : Nat)
    (outcome : Outcome) :
    ofDepth required receipt head = .settled outcome ↔
      outcome = receipt.outcome ∧ (required : Int) ≤ head + 1 - receipt.block := by
  rw [ofDepth, Receipt.outcome, if_pos succeeded]
  by_cases deep : required ≤ head + 1 - receipt.block
  · have depth : (required : Int) ≤ head + 1 - receipt.block := by omega
    simp [deep, depth, eq_comm]
  · have shallow : ¬ (required : Int) ≤ head + 1 - receipt.block := by omega
    simp [deep, shallow]

end Poll

/-- What a poll finds from the receipt and the newest block that it is told. -/
inductive Poll.Told (required : Nat) : Option Receipt → Option Nat → Poll → Prop where
  /-- There is no receipt, or none that could be looked up. -/
  | nothing
      (found : Poll)
      (unsettled : found.settled? = none) :
      Told required none none found
  /-- The receipt settles by itself. -/
  | receipt
      (receipt : Receipt)
      (found : Poll)
      (settles : Poll.ofReceipt required receipt = some found) :
      Told required (some receipt) none found
  /-- The newest block could not be looked up. -/
  | headless
      (receipt : Receipt)
      (cause : TransportError)
      (unsettled : Poll.ofReceipt required receipt = none) :
      Told required (some receipt) none (.failed cause)
  /-- The newest block decides. -/
  | measured
      (receipt : Receipt)
      (head : Nat)
      (unsettled : Poll.ofReceipt required receipt = none) :
      Told required (some receipt) (some head) (.ofDepth required receipt head)

namespace PollRecord

variable {config : ConfirmationConfig} {hash : Hash} {poll : PollRecord}

theorem Made.told
    (made : poll.Made config hash) :
    Poll.Told (max config.confirmations 1) poll.seen? poll.head? poll.found := by
  obtain ⟨began, exchanges, found, ended⟩ := poll
  change Poll.Made _ hash exchanges found at made
  cases made with
  | unanswered time cause =>
      exact .nothing (.failed cause) rfl
  | absent time =>
      exact .nothing .absent rfl
  | settled time receipt found settles =>
      exact .receipt receipt found settles
  | headless time later receipt cause unsettled =>
      exact .headless receipt cause unsettled
  | measured time later receipt head unsettled =>
      exact .measured receipt head unsettled

/-- A poll finds its wait settled exactly when it obtained a receipt that settles it. -/
theorem Made.found_eq_settled_iff
    (made : poll.Made config hash)
    (outcome : Outcome) :
    poll.found = .settled outcome ↔
      ∃ receipt,
        poll.Settles (max config.confirmations 1) receipt ∧ outcome = receipt.outcome := by
  have positive : 1 ≤ max config.confirmations 1 := Nat.le_max_right _ _
  have told := made.told
  simp only [Settles]
  generalize max config.confirmations 1 = required at told positive ⊢
  generalize poll.seen? = seen, poll.head? = newest, poll.found = found at told ⊢
  cases told with
  | nothing found unsettled =>
      have undecided : found ≠ .settled outcome := by
        rintro rfl
        cases unsettled
      simp [undecided]
  | receipt receipt found settles =>
      obtain ⟨rfl, byItself⟩ := Poll.settled_of_ofReceipt settles
      constructor
      · rintro ⟨⟩
        exact ⟨receipt, ⟨rfl, byItself.imp_right .inl⟩, rfl⟩
      · rintro ⟨other, ⟨⟨⟩, -⟩, rfl⟩
        rfl
  | headless receipt cause unsettled =>
      obtain ⟨succeeded, several⟩ := (Poll.ofReceipt_eq_none_iff required receipt).mp unsettled
      simp [succeeded, several]
  | measured receipt head unsettled =>
      obtain ⟨succeeded, several⟩ := (Poll.ofReceipt_eq_none_iff required receipt).mp unsettled
      rw [Poll.ofDepth_eq_settled_iff positive succeeded]
      constructor
      · rintro ⟨rfl, deep⟩
        exact ⟨receipt, ⟨rfl, .inr (.inr ⟨succeeded, head, rfl, deep⟩)⟩, rfl⟩
      · rintro ⟨other, ⟨⟨⟩, failed | ⟨-, single⟩ | ⟨-, newest, ⟨⟩, deep⟩⟩, rfl⟩
        · rw [succeeded] at failed
          cases failed
        · exact absurd single several
        · exact ⟨rfl, deep⟩

/-- A poll that settles nothing obtained no receipt that settles the wait. -/
theorem Made.not_settles
    (made : poll.Made config hash)
    (unsettled : poll.found.settled? = none)
    (receipt : Receipt) :
    ¬ poll.Settles (max config.confirmations 1) receipt := by
  intro settles
  have found := (made.found_eq_settled_iff receipt.outcome).mpr ⟨receipt, settles, rfl⟩
  rw [found] at unsettled
  cases unsettled

end PollRecord

namespace Watch.Course

variable
  {config : ConfirmationConfig} {hash : Hash} {deadline fuel now : Nat} {watch : Watch}
  {polls : List PollRecord} {outcome : Outcome}

/--
Either the last poll of a wait settles it and no earlier one does, or no poll settles it and it ends
with the last receipt that its polls keep.
-/
theorem settled_or_open
    (course : Course config hash deadline fuel now watch polls outcome) :
    (∃ before last receipt,
        polls = before ++ [last] ∧
          (∀ poll ∈ before, ∀ other, ¬ poll.Settles (max config.confirmations 1) other) ∧
          last.Settles (max config.confirmations 1) receipt ∧
          outcome = receipt.outcome) ∨
      (∀ poll ∈ polls, ∀ receipt, ¬ poll.Settles (max config.confirmations 1) receipt) ∧
        outcome = .unsettled (lastKept watch.seen polls) := by
  induction course with
  | exhausted now watch =>
      exact .inr ⟨by simp, rfl⟩
  | finished fuel watch poll outcome made decision =>
      generalize found : poll.found = result at decision
      cases decision with
      | settled outcome =>
          obtain ⟨receipt, settles, rfl⟩ := (made.found_eq_settled_iff outcome).mp found
          exact .inl ⟨[], poll, receipt, rfl, by simp, settles, rfl⟩
      | ended result unsettled ending =>
          subst found
          rw [made.seen_after unsettled]
          exact .inr ⟨by simpa using made.not_settles unsettled, rfl⟩
  | paused fuel wake watch next poll rest outcome made decision course inductionHypothesis =>
      generalize found : poll.found = result at decision
      cases decision with
      | paused result unsettled early harmless =>
          subst found
          rw [made.seen_after unsettled] at inductionHypothesis
          have unsettling := made.not_settles unsettled
          rcases inductionHypothesis with
            ⟨before, last, receipt, rfl, unsettlingBefore, settles, ends⟩ | ⟨unsettlingRest, ends⟩
          · exact
              .inl
                ⟨poll :: before, last, receipt, rfl,
                  by simpa using ⟨unsettling, unsettlingBefore⟩, settles, ends⟩
          · exact .inr ⟨by simpa using ⟨unsettling, unsettlingRest⟩, ends⟩

/-- A poll that settles a wait is its last one and the first to do so, and it gives the outcome. -/
theorem ends_with_settlement
    (course : Course config hash deadline fuel now watch polls outcome)
    {poll : PollRecord}
    (member : poll ∈ polls)
    {receipt : Receipt}
    (settles : poll.Settles (max config.confirmations 1) receipt) :
    outcome = receipt.outcome ∧
      ∃ before,
        polls = before ++ [poll] ∧
          ∀ earlier ∈ before, ∀ other, ¬ earlier.Settles (max config.confirmations 1) other := by
  rcases course.settled_or_open with
    ⟨before, last, found, rfl, unsettling, ends, rfl⟩ | ⟨unsettling, -⟩
  · rcases List.mem_append.mp member with early | final
    · exact absurd settles (unsettling poll early receipt)
    · obtain rfl := List.mem_singleton.mp final
      obtain rfl : receipt = found := Option.some.inj (settles.1.symm.trans ends.1)
      exact ⟨rfl, before, rfl, unsettling⟩
  · exact absurd settles (unsettling poll member receipt)

/-- A wait ends as confirmed or reverted exactly when one of its polls settles it. -/
theorem isTerminal_iff
    (course : Course config hash deadline fuel now watch polls outcome) :
    outcome.isTerminal = true ↔
      ∃ poll ∈ polls, ∃ receipt, poll.Settles (max config.confirmations 1) receipt := by
  constructor
  · intro terminal
    rcases course.settled_or_open with ⟨before, last, receipt, rfl, -, settles, -⟩ | ⟨-, rfl⟩
    · exact ⟨last, by simp, receipt, settles⟩
    · cases seen : lastKept watch.seen polls <;> simp [seen, Outcome.unsettled,
        Outcome.isTerminal] at terminal
  · rintro ⟨poll, member, receipt, settles⟩
    rw [(course.ends_with_settlement member settles).1]
    exact receipt.isTerminal_outcome

/-- A failed receipt reverts the wait that obtains it. -/
theorem reverted_of_failed
    (course : Course config hash deadline fuel now watch polls outcome)
    {poll : PollRecord}
    (member : poll ∈ polls)
    {receipt : Receipt}
    (seen : poll.seen? = some receipt)
    (failed : receipt.succeeded = false) :
    outcome = .reverted receipt := by
  rw [(course.ends_with_settlement member ⟨seen, .inl failed⟩).1, Receipt.outcome, failed]
  rfl

/-- A wait that starts with nothing is confirmed or left pending by a successful receipt only. -/
theorem succeeded_of_confirmed_or_pending
    (course : Course config hash deadline fuel now .start polls outcome)
    {receipt : Receipt}
    (ends : outcome = .confirmed receipt ∨ outcome = .pending receipt) :
    receipt.succeeded = true := by
  rcases course.settled_or_open with ⟨before, last, found, rfl, -, -, rfl⟩ | ⟨unsettling, rfl⟩
  · rw [Receipt.outcome] at ends
    cases succeeded : found.succeeded with
    | false =>
        simp [succeeded] at ends
    | true =>
        obtain rfl : found = receipt := by simpa [succeeded] using ends
        exact succeeded
  · cases kept : lastKept start.seen polls with
    | none =>
        simp [kept, Outcome.unsettled] at ends
    | some last =>
        obtain rfl : last = receipt := by simpa [kept, Outcome.unsettled] using ends
        rcases seen_of_lastKept kept with before | ⟨poll, member, seen⟩
        · cases before
        · cases succeeded : last.succeeded with
          | false =>
              exact absurd ⟨seen, .inl succeeded⟩ (unsettling poll member last)
          | true =>
              rfl

end Watch.Course

/-- A result hands out a receipt exactly when it is a confirmed one. -/
theorem TransactionResult.toReceipt_eq_ok_iff
    (result : TransactionResult)
    (receipt : Receipt) :
    result.toReceipt = .ok receipt ↔ result.outcome = .confirmed receipt := by
  rw [toReceipt]
  cases result.outcome <;> simp

/--
A wait ends as confirmed or reverted exactly when one of its polls settles it. That poll is the last
one and the first to settle it, and its receipt gives the outcome. A failed receipt reverts the
wait and never confirms it or leaves it pending, and only a confirmed wait hands out its receipt.
-/
theorem Client.await_isTerminal_iff
    {σ : Type}
    (client : Client σ)
    (handle : Handle)
    (timeout : Nat)
    (world : World σ) :
    ∃ polls : List PollRecord,
      (client.await handle timeout world).2.history =
          world.history ++ polls.flatMap PollRecord.exchanges ∧
        (∀ poll ∈ polls, poll.Made client.config.confirmation handle.hash) ∧
        ((client.await handle timeout world).1.outcome.isTerminal = true ↔
          ∃ poll ∈ polls, ∃ receipt,
            poll.Settles (max client.config.confirmation.confirmations 1) receipt) ∧
        (∀ poll ∈ polls, ∀ receipt,
          poll.Settles (max client.config.confirmation.confirmations 1) receipt →
            (client.await handle timeout world).1.outcome = receipt.outcome ∧
              ∃ before,
                polls = before ++ [poll] ∧
                  ∀ earlier ∈ before, ∀ other,
                    ¬ earlier.Settles (max client.config.confirmation.confirmations 1) other) ∧
        (∀ poll ∈ polls, ∀ receipt,
          poll.seen? = some receipt → receipt.succeeded = false →
            (client.await handle timeout world).1.outcome = .reverted receipt) ∧
        (∀ receipt,
          (client.await handle timeout world).1.outcome = .confirmed receipt ∨
              (client.await handle timeout world).1.outcome = .pending receipt →
            receipt.succeeded = true) ∧
        ∀ receipt,
          (client.await handle timeout world).1.toReceipt = .ok receipt ↔
            (client.await handle timeout world).1.outcome = .confirmed receipt := by
  obtain ⟨exchanges, added, -, -, polls, rfl, course⟩ := client.yields_await handle timeout world
  exact
    ⟨polls, added, course.made, course.isTerminal_iff,
      fun _ member _ settles => course.ends_with_settlement member settles,
      fun _ member _ seen failed => course.reverted_of_failed member seen failed,
      fun _ ends => course.succeeded_of_confirmed_or_pending ends,
      TransactionResult.toReceipt_eq_ok_iff _⟩

/-- A ledger that includes all in block 101 and whose newest block rises with every look at it. -/
def risingLedger : Ledger Nat where
  defaultSender := none
  answer
    | .receipt hash, _, head => (.ok (some ⟨hash, 101, 21000, 1, true⟩), head)
    | .blockNumber, _, head => (.ok head, head + 1)
    | _, _, head => (.error .nullResponse, head)

/-- A wait for three blocks makes three polls, of which only the last one settles it. -/
theorem risingLedger_settles :
    let client : Client Nat :=
      { ledger := risingLedger, config := Config.withConfirmations {} 3 }
    let wait := client.await ⟨1, "write", none, none⟩ 30000 (World.start 101)
    wait.2.history.filterMap Exchange.head? = [101, 102, 103] ∧
      wait.1.toReceipt = .ok ⟨1, 101, 21000, 1, true⟩ ∧
      ∃ before last receipt,
        wait.2.history = (before ++ [last]).flatMap PollRecord.exchanges ∧
          last.Settles 3 receipt ∧
          wait.1.outcome = receipt.outcome ∧
          ∀ earlier ∈ before, ∀ other, ¬ earlier.Settles 3 other := by
  intro client
  dsimp only
  obtain ⟨polls, added, -, terminal, settled, -, -, handsOut⟩ :=
    client.await_isTerminal_iff ⟨1, "write", none, none⟩ 30000 (World.start 101)
  have received := (handsOut ⟨1, 101, 21000, 1, true⟩).mpr (by decide +kernel)
  obtain ⟨last, member, receipt, settles⟩ := terminal.mp (by decide +kernel)
  obtain ⟨ends, before, rfl, unsettled⟩ := settled last member receipt settles
  exact ⟨by decide +kernel, received, before, last, receipt, added, settles, ends, unsettled⟩

end ContractGateway
