import ContractGateway.Proofs.Ledger.Growth
import ContractGateway.Proofs.Transaction.Answers
import ContractGateway.Proofs.Transaction.Development

/-!
# How the in-memory ledger treats a write

The behavior that is scripted for a write decides what becomes of it. Its dry run and the send
decide whether it is submitted (`Client.submitWith_of_memory`), and its inclusion whether a wait
confirms it (`Client.isConfirmed_await_iff`), as long as no failures are injected. Waiting for one
transaction leaves the others as they are (`Client.holder?_await`).
-/

namespace ContractGateway

namespace Memory

/-- A client of the in-memory ledger. -/
abbrev client (sender : Option Address) (config : Config) : Client State :=
  { ledger := ledger sender, config }

namespace Behavior

/-- Neither the dry run nor the send fails. -/
def isAccepted (behavior : Behavior) : Bool :=
  match behavior.dryRun, behavior.rejection with
  | .gas _, none => true
  | _, _ => false

theorem isAccepted_iff (behavior : Behavior) :
    behavior.isAccepted = true ↔
      (∃ gas, behavior.dryRun = .gas gas) ∧ behavior.rejection = none := by
  rw [isAccepted]
  cases behavior.dryRun <;> cases behavior.rejection <;> simp

/-- The transaction succeeds in its block, at the first query. -/
def succeeds (behavior : Behavior) : Bool := behavior.inclusion = .after 0 true

/-- The first query finds the transaction, or none does. -/
def IsPrompt (behavior : Behavior) : Prop :=
  behavior.inclusion = .never ∨ ∃ succeeds, behavior.inclusion = .after 0 succeeds

end Behavior

namespace State

/-- Whatever is asked, the in-memory ledger continues. -/
theorem develops_continues (sender : Option Address) :
    (Memory.ledger sender).Develops Continues where
  refl := .refl
  trans := .trans
  answer call time state := state.continues_answer sender call time

/-- Where no hash occurs twice, each transaction is found by its own. -/
theorem holder?_of_nodup
    {state : State}
    (distinct : (state.sent.map (·.hash)).Nodup)
    {sent : Sent}
    (member : sent ∈ state.sent) :
    state.holder? sent.hash = some sent := by
  cases found : state.holder? sent.hash with
  | none =>
      have missing := List.find?_eq_none.mp found sent member
      simp at missing
  | some other =>
      have same : other.hash = sent.hash := by simpa using List.find?_some found
      rw [List.inj_on_of_nodup_map distinct (List.mem_of_find?_eq_some found) member same]

/-- Replacing an item that is not looked for by another such item changes no search. -/
theorem find?_set_of_neg
    {α : Type}
    {test : α → Bool}
    {items : List α}
    {position : Nat}
    {before behind : α}
    (held : items[position]? = some before)
    (notBefore : ¬ test before)
    (notBehind : ¬ test behind) :
    (items.set position behind).find? test = items.find? test := by
  induction items generalizing position with
  | nil => rfl
  | cons item rest inductionHypothesis =>
      cases position with
      | zero =>
          obtain rfl : item = before := Option.some.inj held
          rw [List.set_cons_zero, List.find?_cons_of_neg notBehind,
            List.find?_cons_of_neg notBefore]
      | succ position =>
          rw [List.set_cons_succ, List.find?_cons, List.find?_cons, inductionHypothesis held]

/-- Queries for one transaction leave the others alone. -/
theorem holder?_receipt
    (state : State)
    {hash other : Hash}
    (different : other ≠ hash) :
    (state.receipt hash).2.holder? other = state.holder? other := by
  by_cases working : state.failingPolls = 0
  · cases held : state.holder? hash with
    | none => rw [receipt_of_unknown working held]
    | some sent =>
        obtain ⟨-, -, position, place, asked⟩ := receipt_of_held working held
        have own : sent.hash = hash := by simpa using List.find?_some held
        have polled := (becomes_inclusion state.head sent).hash_eq.trans own
        rw [asked]
        exact find?_set_of_neg place (by simpa [own] using Ne.symm different)
          (by simpa [polled] using Ne.symm different)
  · rw [receipt, if_pos working]
    rfl

/-- A receipt query adds no transaction. -/
theorem calls_receipt (state : State) (hash : Hash) :
    (state.receipt hash).2.sent.map (·.call) = state.sent.map (·.call) := by
  by_cases working : state.failingPolls = 0
  · cases held : state.holder? hash with
    | none => rw [receipt_of_unknown working held]
    | some sent =>
        obtain ⟨-, -, position, place, asked⟩ := receipt_of_held working held
        have same := (becomes_inclusion state.head sent).call_eq
        have stands : (state.sent.map (·.call))[position]? = some sent.call := by
          rw [List.getElem?_map, place, Option.map_some]
        obtain ⟨within, found⟩ := List.getElem?_eq_some_iff.mp stands
        rw [asked, List.map_set, same, ← found, List.set_getElem_self]
  · rw [receipt, if_pos working]

/-- What is included at the first query is included at every query, in one block. -/
theorem inclusion_of_prompt
    {sent : Sent}
    {succeeds : Bool}
    (prompt : sent.behavior.inclusion = .after 0 succeeds)
    (head : Nat) :
    ∃ receipt : Receipt,
      (inclusion head sent).1 = some receipt ∧
        receipt.block = sent.block.getD (head + 1) ∧ receipt.succeeded = succeeds ∧
        (inclusion head sent).2.block = some receipt.block := by
  rw [inclusion, prompt]
  exact ⟨_, rfl, rfl, rfl, rfl⟩

/-- The block holds the transaction, or will from the next query on, and no newer block is known. -/
structure IsNewest (state : State) (hash : Hash) (block : Nat) : Prop where
  calm : state.IsCalm
  within : state.head ≤ block
  held :
    ∃ sent succeeds,
      state.holder? hash = some sent ∧ sent.behavior.inclusion = .after 0 succeeds ∧
        sent.block.getD (state.head + 1) = block

/-- A query for the transaction finds it in the newest block, and makes no newer one. -/
theorem IsNewest.receipt
    {state : State}
    {hash : Hash}
    {block : Nat}
    (newest : state.IsNewest hash block) :
    ∃ receipt,
      (state.receipt hash).1 = .ok (some receipt) ∧ receipt.block = block ∧
        (state.receipt hash).2.IsNewest hash block := by
  obtain ⟨sent, succeeds, held, prompt, placed⟩ := newest.held
  obtain ⟨receipt, found, position, -, stays⟩ := inclusion_of_prompt prompt state.head
  obtain ⟨asked, stillHeld, _, -, left⟩ := receipt_of_held newest.calm.polls held
  rw [found] at asked left
  have same : receipt.block = block := position.trans placed
  refine ⟨receipt, asked, same, (state.continues_receipt hash).calm newest.calm, ?_, ?_⟩
  · have behind : (state.receipt hash).2.head = max state.head block := by rw [left, ← same]
    rw [behind]
    exact Nat.max_le.mpr ⟨newest.within, Nat.le_refl block⟩
  · refine ⟨_, succeeds, stillHeld, ?_, ?_⟩
    · rw [(becomes_inclusion state.head sent).behavior_eq, prompt]
    · rw [stays, Option.getD_some, same]

end State

end Memory

namespace Client

open Memory

variable (sender : Option Address) (config : Config) {write : PreparedWrite}

/-- Asking the in-memory ledger gives its answer and leaves the state behind it. -/
theorem ask_of_answer
    (call : LedgerCall)
    {world : World State}
    {told : Except TransportError call.Answer}
    {left : State}
    (answered : Memory.answer sender call world.now world.ledger = (told, left)) :
    ∃ behind : World State,
      (Memory.ledger sender).ask call world = (told, behind) ∧ behind.ledger = left := by
  obtain ⟨first, second⟩ := Prod.mk.inj answered
  exact ⟨_, Prod.ext first rfl, second⟩

/-- The in-memory ledger always has a price. -/
theorem price_of_memory (write : PreparedWrite) (world : World State) :
    ∃ pricing,
      ((client sender config).price write world).1 = .ok pricing ∧
        ((client sender config).price write world).2.ledger = world.ledger := by
  rw [price]
  cases write.options.fees with
  | fixed pricing => exact ⟨pricing, rfl, rfl⟩
  | network =>
      rw [FeePolicy.resolve, Process.bind_apply]
      have told :
          ((Memory.ledger sender).ask .estimateFees world).1 = world.ledger.estimateFees := rfl
      rw [told, State.estimateFees]
      split
      · exact ⟨_, rfl, rfl⟩
      · exact ⟨_, rfl, rfl⟩

/-- A dry run fails exactly as it is scripted to, and touches no transaction. -/
theorem gasAndFees_of_memory
    (unlimited : write.options.gasLimit = none)
    (world : World State) :
    ((client sender config).gasAndFees write world).2.ledger.sent = world.ledger.sent ∧
      ((∃ priced, ((client sender config).gasAndFees write world).1 = .ok priced) ↔
        ∃ gas, (world.ledger.behavior (Auction.callOf write)).dryRun = .gas gas) := by
  let request := write.request ((client sender config).sender write) write.options.nonce
  have called : State.callOf request = .ok (Auction.callOf write) := rfl
  rw [gasAndFees, unlimited]
  simp only [Process.bind_apply, estimate]
  generalize asked : (Memory.ledger sender).ask (.estimateGas request) world = answered
  have told : answered.1 = (world.ledger.estimateGas request).1 := by rw [← asked]; rfl
  have left : answered.2.ledger = (world.ledger.estimateGas request).2 := by rw [← asked]; rfl
  obtain ⟨answer, middle⟩ := answered
  dsimp only at told left
  subst told
  rw [State.estimateGas, called] at left ⊢
  cases dryRun : (world.ledger.behavior (Auction.callOf write)).dryRun with
  | gas amount =>
      obtain ⟨pricing, priced, same⟩ :=
        price_of_memory sender config write middle
      simp only [dryRun] at left ⊢
      have untouched :
          ((client sender config).price write middle).2.ledger.sent = world.ledger.sent := by
        rw [same, left]
      simp only [Process.bind_apply, priced]
      exact ⟨untouched, ⟨fun _ => ⟨amount, rfl⟩, fun _ => ⟨_, rfl⟩⟩⟩
  | revert reason =>
      simp only [dryRun] at left ⊢
      have untouched : middle.ledger.sent = world.ledger.sent := by rw [left]
      refine ⟨untouched, ?_⟩
      constructor <;> rintro ⟨_, ⟨⟩⟩
  | fail message =>
      simp only [dryRun] at left ⊢
      have untouched : middle.ledger.sent = world.ledger.sent := by rw [left]
      refine ⟨untouched, ?_⟩
      constructor <;> rintro ⟨_, ⟨⟩⟩

section Sends

variable
  {σ : Type} {client : Client σ} {world middle behind : World σ} {limit : Nat} {pricing : Pricing}
  {assigned : Option Nat}

/-- A priced write is not submitted when it is not taken. -/
theorem submitWith_of_rejected
    {cause : TransportError}
    (prepared : client.gasAndFees write world = (.ok (limit, pricing), middle))
    (sending :
      client.ledger.ask (.send (client.outgoing write assigned limit pricing)) middle =
        (.error cause, behind)) :
    client.submitWith write assigned world = (.error (.transport cause), behind) := by
  unfold outgoing at sending
  rw [submitWith, Process.bind_apply, prepared]
  simp only [Process.bind_apply, sending]
  rfl

/-- A priced write that is taken is submitted, and its handle is issued. -/
theorem submitWith_of_taken
    {hash : Hash}
    (prepared : client.gasAndFees write world = (.ok (limit, pricing), middle))
    (sending :
      client.ledger.ask (.send (client.outgoing write assigned limit pricing)) middle =
        (.ok hash, behind)) :
    client.submitWith write assigned world = (.ok (client.issued write assigned hash), behind) := by
  unfold outgoing at sending
  rw [submitWith, Process.bind_apply, prepared]
  simp only [Process.bind_apply, sending]
  rfl

end Sends

/-- A write whose dry run or send fails is not submitted. -/
theorem submitWith_refused
    (unlimited : write.options.gasLimit = none)
    (world : World State)
    (refused : (world.ledger.behavior (Auction.callOf write)).isAccepted = false)
    (assigned : Option Nat) :
    (∃ error, ((client sender config).submitWith write assigned world).1 = .error error) ∧
      ((client sender config).submitWith write assigned world).2.ledger.sent =
        world.ledger.sent := by
  obtain ⟨untouched, ends⟩ := gasAndFees_of_memory sender config unlimited world
  have continues : world.ledger.Continues _ :=
    (client sender config).develops_gasAndFees (State.develops_continues sender) write world
  have treated := continues.behavior_eq
  generalize prepared : (client sender config).gasAndFees write world = result at *
  obtain ⟨error | ⟨limit, pricing⟩, middle⟩ := result
  · rw [submitWith, Process.bind_apply, prepared]
    exact ⟨⟨error, rfl⟩, untouched⟩
  · have dryRun := ends.mp ⟨_, rfl⟩
    let request := (client sender config).outgoing write assigned limit pricing
    rcases middle.ledger.send_cases sender request with ⟨cause, rejected⟩ | ⟨call, called, taken⟩
    · obtain ⟨behind, sending, same⟩ := ask_of_answer sender (.send request) rejected
      rw [submitWith_of_rejected prepared sending]
      exact ⟨⟨_, rfl⟩, by rw [same, untouched]⟩
    · obtain rfl : Auction.callOf write = call := Except.ok.inj called
      rw [treated] at taken
      have accepted := (Behavior.isAccepted_iff _).mpr ⟨dryRun, taken⟩
      rw [refused] at accepted
      cases accepted

/-- Any other write is submitted, and its transaction is put behind all others. -/
theorem submitWith_accepted
    (unlimited : write.options.gasLimit = none)
    (world : World State)
    (accepted : (world.ledger.behavior (Auction.callOf write)).isAccepted = true)
    (assigned : Option Nat) :
    ∃ (handle : Handle) (sent : Memory.Sent),
      ((client sender config).submitWith write assigned world).1 = .ok handle ∧
        ((client sender config).submitWith write assigned world).2.ledger.sent =
          world.ledger.sent ++ [sent] ∧
        handle.hash = sent.hash ∧ sent.call = Auction.callOf write ∧
        sent.behavior = world.ledger.behavior (Auction.callOf write) ∧ sent.block = none := by
  obtain ⟨dryRun, unrejected⟩ := (Behavior.isAccepted_iff _).mp accepted
  obtain ⟨untouched, ends⟩ := gasAndFees_of_memory sender config unlimited world
  have continues : world.ledger.Continues _ :=
    (client sender config).develops_gasAndFees (State.develops_continues sender) write world
  have treated := continues.behavior_eq
  obtain ⟨⟨limit, pricing⟩, priced⟩ := ends.mpr dryRun
  generalize prepared : (client sender config).gasAndFees write world = result at *
  obtain ⟨answer, middle⟩ := result
  obtain rfl : answer = .ok (limit, pricing) := priced
  let request := (client sender config).outgoing write assigned limit pricing
  have called : State.callOf request = .ok (Auction.callOf write) := rfl
  rw [← treated] at unrejected
  obtain ⟨nonces, sent, call, behavior, unplaced, taken⟩ :=
    State.send_of_accepted called unrejected sender
  obtain ⟨behind, sending, left⟩ := ask_of_answer sender (.send request) taken
  rw [submitWith_of_taken prepared sending]
  refine ⟨_, sent, rfl, ?_, rfl, call, ?_, unplaced⟩
  · rw [left, untouched]
  · rw [behavior, treated]

variable {handle : Handle} {world : World State} {sent : Memory.Sent}

/-- No query finds a receipt of a transaction that is never included. -/
theorem hears_never (hash : Hash) :
    (client sender config).Hears hash
      (fun present =>
        ∃ sent, present.ledger.holder? hash = some sent ∧ sent.behavior.inclusion = .never)
      (·.receipt? = none) := by
  refine ⟨?_, fun _ _ holds => holds⟩
  rintro call polls present ⟨sent, held, never⟩
  obtain ⟨other, stillHeld, becomes⟩ :=
    (present.ledger.continues_answer sender call present.now).grows.holder?_eq held
  refine ⟨⟨other, stillHeld, by rw [becomes.behavior_eq, never]⟩, ?_⟩
  rcases polls with rfl | rfl
  · have asked :
        ((client sender config).ledger.ask (.receipt hash) present).1 =
          (present.ledger.receipt hash).1 := rfl
    rw [asked]
    by_cases working : present.ledger.failingPolls = 0
    · rw [(State.receipt_of_held working held).1, State.inclusion, never]
      rfl
    · rw [State.receipt, if_pos working]
      rfl
  · rfl

/-- A transaction that is never included is never confirmed. -/
theorem isConfirmed_await_of_never
    (held : world.ledger.holder? handle.hash = some sent)
    (never : sent.behavior.inclusion = .never)
    (timeout : Nat) :
    ((client sender config).await handle timeout world).1.isConfirmed = false := by
  rw [Bool.eq_false_iff]
  intro confirmed
  obtain ⟨exchanges, receipt, silent, -, ⟨exchange, member, found⟩, -⟩ :=
    (hears_never sender config handle.hash).settled_of_isConfirmed ⟨sent, held, never⟩ confirmed
  rw [silent exchange member] at found
  cases found

/-- A wait for a transaction in the newest block is told of this block and of no newer one. -/
theorem hears_newest (hash : Hash) (block : Nat) :
    (client sender config).Hears hash (·.ledger.IsNewest hash block) fun exchange =>
      (∀ receipt, exchange.receipt? = some receipt → receipt.block = block) ∧
        ∀ head, exchange.head? = some head → head ≤ block := by
  refine ⟨?_, fun _ _ holds => holds⟩
  rintro call polls present newest
  rcases polls with rfl | rfl
  · obtain ⟨receipt, found, same, stays⟩ := newest.receipt
    have asks :
        (client sender config).ledger.ask (.receipt hash) present =
          (.ok (some receipt), ((client sender config).ledger.ask (.receipt hash) present).2) :=
      Prod.ext found rfl
    refine ⟨stays, ?_⟩
    rw [asks]
    refine ⟨fun other shown => ?_, fun head shown => (by cases shown)⟩
    obtain rfl : receipt = other := Option.some.inj shown
    exact same
  · have asks :
        ((client sender config).ledger.ask .blockNumber present).1 = .ok present.ledger.head := by
      change present.ledger.blockNumber = _
      rw [State.blockNumber, newest.calm.head, if_neg Bool.false_ne_true]
    refine ⟨newest, fun other shown => (by cases shown), fun head shown => ?_⟩
    rw [asks] at shown
    obtain rfl : present.ledger.head = head := Option.some.inj shown
    exact newest.within

/-- A transaction whose block is the newest is not confirmed where more blocks are wanted. -/
theorem isConfirmed_await_of_several
    {block : Nat}
    (newest : world.ledger.IsNewest handle.hash block)
    (several : max config.confirmation.confirmations 1 ≠ 1)
    (timeout : Nat) :
    ((client sender config).await handle timeout world).1.isConfirmed = false := by
  rw [Bool.eq_false_iff]
  intro confirmed
  obtain
      ⟨exchanges, receipt, heard, succeeded, ⟨exchange, member, found⟩, failed | single | deep⟩ :=
    (hears_newest sender config handle.hash block).settled_of_isConfirmed newest confirmed
  · rw [succeeded] at failed
    cases failed
  · exact several single
  · obtain ⟨head, ⟨lookup, inside, told⟩, deep⟩ := deep
    have position := (heard exchange member).1 receipt found
    have bound := (heard lookup inside).2 head told
    have positive : 1 ≤ max config.confirmation.confirmations 1 := Nat.le_max_right _ _
    dsimp only at deep
    omega

/--
A transaction that was just submitted is confirmed exactly when it is to succeed in its block and
that block is enough.
-/
theorem isConfirmed_await
    (calm : world.ledger.IsCalm)
    (held : world.ledger.holder? handle.hash = some sent)
    (unplaced : sent.block = none)
    (prompt : sent.behavior.IsPrompt)
    (timeout : Nat) :
    ((client sender config).await handle timeout world).1.isConfirmed =
      (sent.behavior.succeeds && decide (max config.confirmation.confirmations 1 = 1)) := by
  rcases prompt with never | ⟨succeeds, prompt⟩
  · rw [isConfirmed_await_of_never sender config held never]
    simp [Behavior.succeeds, never]
  by_cases single : max config.confirmation.confirmations 1 = 1
  · obtain ⟨receipt, found, -, outcome, -⟩ := State.inclusion_of_prompt prompt world.ledger.head
    have told := (State.receipt_of_held calm.polls held).1
    rw [found] at told
    have asks :
        (client sender config).ledger.ask (.receipt handle.hash) world =
          (.ok (some receipt),
            ((client sender config).ledger.ask (.receipt handle.hash) world).2) :=
      Prod.ext told rfl
    have settles :
        Poll.ofReceipt (max config.confirmation.confirmations 1) receipt =
          some (.settled receipt.outcome) := by
      rw [Poll.ofReceipt, Receipt.outcome, single]
      cases receipt.succeeded <;> rfl
    rw [await_of_settled (run_poll_of_receipt asks settles), TransactionResult.isConfirmed,
      Receipt.outcome, outcome]
    cases succeeds <;> simp [Behavior.succeeds, prompt, single, Outcome.isConfirmed]
  · have newest : world.ledger.IsNewest handle.hash (world.ledger.head + 1) :=
      ⟨calm, Nat.le_succ _, sent, succeeds, held, prompt, by rw [unplaced]; rfl⟩
    rw [isConfirmed_await_of_several sender config newest single]
    simp [single]

/-- What queries for a transaction leave alone is left alone by every wait for it. -/
theorem await_leaves
    {α : Type}
    (view : State → α)
    (untouched : ∀ state : State, view (state.receipt handle.hash).2 = view state)
    (timeout : Nat)
    (world : World State) :
    view ((client sender config).await handle timeout world).2.ledger = view world.ledger := by
  have hears :
      (client sender config).Hears handle.hash (view ·.ledger = view world.ledger)
        fun _ => True := by
    refine ⟨?_, fun _ _ holds => holds⟩
    rintro call (rfl | rfl) present same
    · exact ⟨(untouched present.ledger).trans same, trivial⟩
    · exact ⟨same, trivial⟩
  obtain ⟨_, -, kept, -⟩ := hears.yields_await timeout rfl
  exact kept

/-- Waiting adds no transaction. -/
theorem calls_await
    (handle : Handle)
    (timeout : Nat)
    (world : World State) :
    ((client sender config).await handle timeout world).2.ledger.sent.map (·.call) =
      world.ledger.sent.map (·.call) :=
  await_leaves sender config (fun state => state.sent.map (·.call))
    (fun state => state.calls_receipt handle.hash) timeout world

/-- Waiting for one transaction leaves the others as they are. -/
theorem holder?_await
    {hash : Hash}
    (different : hash ≠ handle.hash)
    (timeout : Nat)
    (world : World State) :
    ((client sender config).await handle timeout world).2.ledger.holder? hash =
      world.ledger.holder? hash :=
  await_leaves sender config (·.holder? hash) (fun state => state.holder?_receipt different) timeout
    world

end Client

end ContractGateway
