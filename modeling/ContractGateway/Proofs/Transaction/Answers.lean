import ContractGateway.Proofs.Transaction.Discipline
import ContractGateway.Proofs.Transaction.Ending
import ContractGateway.Proofs.Transaction.Settlement

/-!
# What a wait takes from single answers

A poll makes one call or two, and all that a wait learns it learns from their answers. Where each of
these calls keeps an invariant and is answered in a certain way, the whole wait keeps the invariant
and hears nothing else, and a final outcome rests on what it heard (`Client.Hears.yields_await`).

In the other direction, a first poll that is answered with enough settles its wait at once
(`Client.await_of_settled`).
-/

namespace ContractGateway

/-- Among the exchanges there are a receipt and, where it needs one, a head that settle a wait. -/
def Settled (required : Nat) (exchanges : List Exchange) (receipt : Receipt) : Prop :=
  (∃ exchange ∈ exchanges, exchange.receipt? = some receipt) ∧
    (receipt.succeeded = false ∨
      required = 1 ∨
        ∃ head : Nat,
          (∃ exchange ∈ exchanges, exchange.head? = some head) ∧
            (required : Int) ≤ head + 1 - receipt.block)

/-- What settles a wait was told to one of its polls. -/
theorem PollRecord.Settles.settled
    {polls : List PollRecord}
    {poll : PollRecord}
    {required : Nat}
    {receipt : Receipt}
    (settles : poll.Settles required receipt)
    (member : poll ∈ polls) :
    Settled required (polls.flatMap PollRecord.exchanges) receipt := by
  have among {exchange : Exchange} (inside : exchange ∈ poll.exchanges) :
      exchange ∈ polls.flatMap PollRecord.exchanges :=
    List.mem_flatMap.mpr ⟨poll, member, inside⟩
  obtain ⟨seen, reason⟩ := settles
  obtain ⟨exchange, inside, found⟩ := List.exists_of_findSome?_eq_some seen
  refine ⟨⟨exchange, among inside, found⟩, ?_⟩
  rcases reason with failed | ⟨-, single⟩ | ⟨-, head, told, deep⟩
  · exact .inl failed
  · exact .inr (.inl single)
  · obtain ⟨lookup, within, newest⟩ := List.exists_of_findSome?_eq_some told
    exact .inr (.inr ⟨head, ⟨lookup, among within, newest⟩, deep⟩)

/-- What nobody cancels is followed by the rest. -/
theorem Process.run_uncancelled_bind
    {σ α β : Type}
    (process : Process σ α)
    (next : α → OptionT (Process σ) β)
    (world : World σ) :
    (process.unlessCancelled none >>= next).run world =
      (next (process world).1).run (process world).2 :=
  rfl

namespace Client

variable {σ : Type} (client : Client σ)

/--
The two calls of a poll and the passing of time keep a property of worlds, and where it holds both
calls are answered in a certain way.
-/
structure Hears
    (hash : Hash)
    (steady : World σ → Prop)
    (told : Exchange → Prop) : Prop where
  asks :
    ∀ call, call = .receipt hash ∨ call = .blockNumber →
      ∀ world, steady world →
        steady (client.ledger.ask call world).2 ∧
          told ⟨world.now, call, (client.ledger.ask call world).1⟩
  passes : ∀ world moment, steady world → steady { world with now := moment }

variable {client}

/-- Polls are answered as their calls are, and keep what these keep. -/
theorem Hears.pollsSteadily
    {hash : Hash}
    {steady : World σ → Prop}
    {told : Exchange → Prop}
    (hears : client.Hears hash steady told)
    (deadline : Nat) :
    client.PollsSteadily hash deadline steady fun poll =>
      ∀ exchange ∈ poll.exchanges, told exchange where
  passes world moment _ holds := hears.passes world _ holds
  polls world holds := by
    have queried := hears.asks (.receipt hash) (.inl rfl) world holds
    apply (Process.Yields.ask client.ledger (.receipt hash) world).uncancelled.bindSome
    rintro asked answer middle ⟨rfl, same, rfl⟩
    obtain ⟨goesOn, tellsReceipt⟩ := queried
    rw [show (client.ledger.ask (.receipt hash) world).1 = answer from same.symm] at tellsReceipt
    rcases answer with cause | _ | receipt
    · exact .pure ⟨_, rfl, .unanswered world.now cause, by simpa using tellsReceipt, goesOn⟩
    · exact .pure ⟨_, rfl, .absent world.now, by simpa using tellsReceipt, goesOn⟩
    cases settles :
        Poll.ofReceipt (max client.config.confirmation.confirmations 1) receipt with
    | some found =>
        simp only [settles]
        exact .pure
          ⟨_, rfl, .settled world.now receipt found settles, by simpa using tellsReceipt, goesOn⟩
    | none =>
        simp only [settles]
        generalize (client.ledger.ask (.receipt hash) world).2 = middle at goesOn
        have lookedUp := hears.asks .blockNumber (.inr rfl) middle goesOn
        apply (Process.Yields.ask client.ledger .blockNumber middle).uncancelled.bindSome
        rintro asked answer final ⟨rfl, same, rfl⟩
        obtain ⟨ends, tellsHead⟩ := lookedUp
        rw [show (client.ledger.ask .blockNumber middle).1 = answer from same.symm] at tellsHead
        cases answer with
        | error cause =>
            exact .pure
              ⟨_, rfl, .headless world.now middle.now receipt cause settles,
                by simpa using ⟨tellsReceipt, tellsHead⟩, ends⟩
        | ok head =>
            exact .pure
              ⟨_, rfl, .measured world.now middle.now receipt head settles,
                by simpa using ⟨tellsReceipt, tellsHead⟩, ends⟩

/--
A wait is answered as its calls are, and keeps what these keep. A final outcome is that of a receipt
among its answers.
-/
theorem Hears.yields_await
    {handle : Handle}
    {steady : World σ → Prop}
    {told : Exchange → Prop}
    (hears : client.Hears handle.hash steady told)
    (timeout : Nat)
    {world : World σ}
    (begins : steady world) :
    Process.Yields (client.await handle timeout) world fun exchanges result final =>
      steady final ∧
        (∀ exchange ∈ exchanges, told exchange) ∧
        (result.outcome.isTerminal = true →
          ∃ receipt,
            result = ⟨handle.hash, handle.label, receipt.outcome⟩ ∧
              Settled (max client.config.confirmation.confirmations 1) exchanges receipt) := by
  apply
    (client.yields_await_of (hears.pollsSteadily (world.now + timeout)) begins).weaken
  rintro _ result final ⟨sameHash, sameLabel, polls, rfl, course, heard, ends⟩
  refine ⟨ends, fun exchange inside => ?_, fun terminal => ?_⟩
  · obtain ⟨poll, member, within⟩ := List.mem_flatMap.mp inside
    exact heard poll member exchange within
  · obtain ⟨poll, member, receipt, settles⟩ := course.isTerminal_iff.mp terminal
    refine ⟨receipt, ?_, settles.settled member⟩
    rw [← sameHash, ← sameLabel, ← (course.ends_with_settlement member settles).1]

/-- A confirmed wait has obtained a receipt that settles it. -/
theorem Hears.settled_of_isConfirmed
    {handle : Handle}
    {steady : World σ → Prop}
    {told : Exchange → Prop}
    (hears : client.Hears handle.hash steady told)
    {world : World σ}
    (begins : steady world)
    {timeout : Nat}
    (confirmed : (client.await handle timeout world).1.isConfirmed = true) :
    ∃ exchanges receipt,
      (∀ exchange ∈ exchanges, told exchange) ∧ receipt.succeeded = true ∧
        Settled (max client.config.confirmation.confirmations 1) exchanges receipt := by
  obtain ⟨exchanges, -, -, heard, ends⟩ := hears.yields_await timeout begins
  generalize client.await handle timeout world = wait at confirmed ends
  have terminal : wait.1.outcome.isTerminal = true := by
    rw [TransactionResult.isConfirmed] at confirmed
    cases outcome : wait.1.outcome <;> simp [outcome, Outcome.isConfirmed] at confirmed ⊢
    rfl
  obtain ⟨receipt, result, settled⟩ := ends terminal
  refine ⟨exchanges, receipt, heard, ?_, settled⟩
  rw [result, TransactionResult.isConfirmed, Receipt.outcome] at confirmed
  cases succeeded : receipt.succeeded with
  | true => rfl
  | false => simp [succeeded, Outcome.isConfirmed] at confirmed

/-- A receipt that says enough is all that a poll needs. -/
theorem run_poll_of_receipt
    {hash : Hash}
    {world behind : World σ}
    {receipt : Receipt}
    {found : Poll}
    (asked : client.ledger.ask (.receipt hash) world = (.ok (some receipt), behind))
    (settles :
      Poll.ofReceipt (max client.config.confirmation.confirmations 1) receipt = some found) :
    (client.poll none hash).run world = (some found, behind) := by
  rw [poll, Process.run_uncancelled_bind, asked]
  simp only [settles]
  rfl

/-- Any other successful receipt is measured against the newest block. -/
theorem run_poll_of_head
    {hash : Hash}
    {world middle behind : World σ}
    {receipt : Receipt}
    {head : Nat}
    (asked : client.ledger.ask (.receipt hash) world = (.ok (some receipt), middle))
    (unsettled :
      Poll.ofReceipt (max client.config.confirmation.confirmations 1) receipt = none)
    (lookedUp : client.ledger.ask .blockNumber middle = (.ok head, behind)) :
    (client.poll none hash).run world =
      (some (.ofDepth (max client.config.confirmation.confirmations 1) receipt head), behind) := by
  rw [poll, Process.run_uncancelled_bind, asked]
  simp only [unsettled]
  rw [Process.run_uncancelled_bind, lookedUp]
  rfl

/-- A wait that its first poll settles ends there. -/
theorem await_of_settled
    {handle : Handle}
    {world behind : World σ}
    {outcome : Outcome}
    (polled : (client.poll none handle.hash).run world = (some (.settled outcome), behind))
    (timeout : Nat) :
    client.await handle timeout world = (⟨handle.hash, handle.label, outcome⟩, behind) := by
  obtain ⟨fuel, limit⟩ := client.pollLimit_eq_succ timeout
  have started := client.run_watch_start handle timeout world
  simp only [limit, client.run_watch_succ polled] at started
  obtain ⟨ends, final⟩ := Prod.mk.inj started
  obtain ⟨_, _, sameHash, sameLabel, _⟩ := client.yields_await handle timeout world
  refine Prod.ext ?_ final.symm
  rw [← sameHash, ← sameLabel, Option.some.inj ends]

end Client

end ContractGateway
