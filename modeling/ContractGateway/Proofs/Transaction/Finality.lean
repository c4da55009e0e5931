import ContractGateway.Proofs.Ledger.Growth
import ContractGateway.Proofs.Transaction.Answers

/-!
# Final outcomes on the in-memory ledger

A wait on the in-memory ledger that ends as confirmed or reverted would end so again. What it was
told stays true while the ledger grows (`Exchange.StandsIn`), so what settled it settles every later
wait with its first poll (`Memory.State.Settles`).

Others use the ledger at the same time: `Ledger.SharesMemory` lets them do what they like before any
call is answered, as long as they do not lower the head.
-/

namespace ContractGateway

open Memory

/-- What is told about a transaction and about the newest block holds of the ledger. -/
structure Exchange.StandsIn (state : State) (hash : Hash) (exchange : Exchange) : Prop where
  receipt : ∀ receipt, exchange.receipt? = some receipt → state.Finds hash receipt
  head : ∀ head, exchange.head? = some head → head ≤ state.head

theorem Exchange.StandsIn.grows
    {state later : State}
    {hash : Hash}
    {exchange : Exchange}
    (stands : exchange.StandsIn state hash)
    (grows : state.GrowsInto later) :
    exchange.StandsIn later hash where
  receipt receipt told := (stands.receipt receipt told).grows grows
  head head told := Nat.le_trans (stands.head head told) grows.head

/-- The in-memory ledger was told what a wait for the transaction needs to end with the receipt. -/
structure Memory.State.Settles
    (state : State)
    (required : Nat)
    (hash : Hash)
    (receipt : Receipt) : Prop where
  finds : state.Finds hash receipt
  enough :
    receipt.succeeded = false ∨ required = 1 ∨ (required : Int) ≤ state.head + 1 - receipt.block

theorem Memory.State.Settles.grows
    {state later : State}
    {required : Nat}
    {hash : Hash}
    {receipt : Receipt}
    (settles : state.Settles required hash receipt)
    (grows : state.GrowsInto later) :
    later.Settles required hash receipt where
  finds := settles.finds.grows grows
  enough := settles.enough.imp_right (.imp_right fun deep => by have := grows.head; omega)

/-- What a wait was told and still stands settles every wait that asks as much. -/
theorem Settled.settles
    {state : State}
    {required : Nat}
    {hash : Hash}
    {exchanges : List Exchange}
    {receipt : Receipt}
    (settled : Settled required exchanges receipt)
    (stands : ∀ exchange ∈ exchanges, exchange.StandsIn state hash) :
    state.Settles required hash receipt := by
  obtain ⟨⟨exchange, member, told⟩, reason⟩ := settled
  refine ⟨(stands exchange member).receipt receipt told, ?_⟩
  rcases reason with failed | single | ⟨head, ⟨lookup, inside, newest⟩, deep⟩
  · exact .inl failed
  · exact .inr (.inl single)
  · have reached := (stands lookup inside).head head newest
    exact .inr (.inr (by omega))

/--
The ledger is the in-memory one, and shared: before each call others do what is allowed, without
lowering the head.
-/
def Ledger.SharesMemory
    {σ : Type}
    (ledger : Ledger σ)
    (sender : Option Address)
    (view : σ → State)
    (allowed : Operation → Prop) : Prop :=
  ∀ call time state, ∃ operations : List Operation,
    (∀ operation ∈ operations, allowed operation) ∧
      KeepsHead sender (view state) operations ∧
      (ledger.answer call time state).1 =
        (Memory.answer sender call time (performAll sender (view state) operations)).1 ∧
      view (ledger.answer call time state).2 =
        (Memory.answer sender call time (performAll sender (view state) operations)).2

/-- Nobody else uses the in-memory ledger. -/
theorem Memory.ledger_sharesMemory (sender : Option Address) (allowed : Operation → Prop) :
    (ledger sender).SharesMemory sender id allowed :=
  fun _ _ _ => ⟨[], by simp, trivial, rfl, rfl⟩

/-- Operations that inject no failure leave a calm ledger calm. -/
theorem Memory.State.IsCalm.performAll
    {state : State}
    (calm : state.IsCalm)
    {operations : List Operation}
    (harmless : ∀ operation ∈ operations, operation.injectsFailure = false)
    (sender : Option Address) :
    (performAll sender state operations).IsCalm := by
  induction operations generalizing state with
  | nil => exact calm
  | cons operation rest inductionHypothesis =>
      obtain ⟨first, others⟩ := List.forall_mem_cons.mp harmless
      exact inductionHypothesis (calm.perform first sender) others

/-- What an answer of the in-memory ledger tells stands behind it. -/
theorem Memory.standsIn_answer
    {call : LedgerCall}
    {hash : Hash}
    (polls : call = .receipt hash ∨ call = .blockNumber)
    (sender : Option Address)
    (time moment : Nat)
    (state : State) :
    Exchange.StandsIn (answer sender call time state).2 hash
      ⟨moment, call, (answer sender call time state).1⟩ := by
  rcases polls with rfl | rfl
  · refine ⟨fun receipt told => ?_, fun head told => by cases told⟩
    cases answered : (answer sender (.receipt hash) time state).1 with
    | error cause =>
        simp [Exchange.receipt?, answered] at told
    | ok found =>
        obtain rfl : found = some receipt := by simpa [Exchange.receipt?, answered] using told
        exact .of_receipt answered
  · refine ⟨fun receipt told => (by cases told), fun head told => ?_⟩
    cases answered : (answer sender .blockNumber time state).1 with
    | error cause =>
        simp [Exchange.head?, answered] at told
    | ok newest =>
        obtain rfl : newest = head := by simpa [Exchange.head?, answered] using told
        have same : state.blockNumber = .ok newest := answered
        rw [State.blockNumber] at same
        split at same
        · cases same
        · exact Nat.le_of_eq (Except.ok.inj same).symm

/-- Asking a shared ledger is asking the in-memory one, after it has grown. -/
theorem Ledger.SharesMemory.ask
    {σ : Type}
    {ledger : Ledger σ}
    {sender : Option Address}
    {view : σ → State}
    {allowed : Operation → Prop}
    (shared : ledger.SharesMemory sender view allowed)
    (call : LedgerCall)
    (world : World σ) :
    ∃ reached : State,
      (view world.ledger).GrowsInto reached ∧
        ((∀ operation, allowed operation → operation.injectsFailure = false) →
          (view world.ledger).IsCalm → reached.IsCalm) ∧
        (ledger.ask call world).1 = (Memory.answer sender call world.now reached).1 ∧
        view (ledger.ask call world).2.ledger =
          (Memory.answer sender call world.now reached).2 := by
  obtain ⟨operations, all, kept, told, left⟩ := shared call world.now world.ledger
  exact
    ⟨performAll sender (view world.ledger) operations, State.grows_performAll kept,
      fun harmless calm =>
        calm.performAll (fun operation member => harmless operation (all operation member)) sender,
      told, left⟩

/-- All that was told since one world still stands in another, which is behind it. -/
def World.StandsSince
    {σ : Type}
    (view : σ → State)
    (hash : Hash)
    (start present : World σ) : Prop :=
  ∃ exchanges,
    present.history = start.history ++ exchanges ∧
      ∀ exchange ∈ exchanges, exchange.StandsIn (view present.ledger) hash

theorem World.StandsSince.refl
    {σ : Type}
    (view : σ → State)
    (hash : Hash)
    (world : World σ) :
    world.StandsSince view hash world :=
  ⟨[], (List.append_nil _).symm, List.forall_mem_nil _⟩

namespace Client

variable {σ : Type} {client : Client σ} {sender : Option Address} {view : σ → State}

/-- What is told to a wait stands, and what was told to it before still does. -/
theorem hears_standing
    {allowed : Operation → Prop}
    (shared : client.ledger.SharesMemory sender view allowed)
    (hash : Hash)
    (start : World σ) :
    client.Hears hash (start.StandsSince view hash) fun _ => True := by
  refine ⟨?_, fun _ _ holds => holds⟩
  rintro call polls present ⟨exchanges, since, stand⟩
  obtain ⟨reached, ahead, -, told, left⟩ := shared.ask call present
  have grows : State.GrowsInto _ (view (client.ledger.ask call present).2.ledger) :=
    ahead.trans (left ▸ (reached.continues_answer sender call present.now).grows)
  refine ⟨⟨_, by rw [Ledger.history_ask, since, List.append_assoc], ?_⟩, trivial⟩
  intro exchange member
  rcases List.mem_append.mp member with before | last
  · exact (stand exchange before).grows grows
  · obtain rfl := List.mem_singleton.mp last
    rw [told, left]
    exact standsIn_answer polls sender present.now present.now reached

/-- A wait with a final outcome leaves a ledger that would settle it. -/
theorem settles_of_await
    {allowed : Operation → Prop}
    (shared : client.ledger.SharesMemory sender view allowed)
    (handle : Handle)
    (timeout : Nat)
    (world : World σ)
    (terminal : (client.await handle timeout world).1.outcome.isTerminal = true) :
    ∃ receipt,
      (client.await handle timeout world).1 = ⟨handle.hash, handle.label, receipt.outcome⟩ ∧
        (view (client.await handle timeout world).2.ledger).Settles
          (max client.config.confirmation.confirmations 1) handle.hash receipt := by
  obtain ⟨exchanges, added, ⟨same, since, stand⟩, -, ends⟩ :=
    (hears_standing shared handle.hash world).yields_await timeout (.refl view handle.hash world)
  obtain rfl : exchanges = same := List.append_cancel_left (added.symm.trans since)
  obtain ⟨receipt, result, settled⟩ := ends terminal
  exact ⟨receipt, result, settled.settles stand⟩

/-- On a ledger that would settle it and where nothing fails, a wait ends at once. -/
theorem await_of_settles
    (shared : client.ledger.SharesMemory sender view (·.injectsFailure = false))
    {handle : Handle}
    {receipt : Receipt}
    {world : World σ}
    (settles :
      (view world.ledger).Settles (max client.config.confirmation.confirmations 1) handle.hash
        receipt)
    (calm : (view world.ledger).IsCalm)
    (timeout : Nat) :
    (client.await handle timeout world).1 = ⟨handle.hash, handle.label, receipt.outcome⟩ := by
  obtain ⟨reached, ahead, stays, told, left⟩ := shared.ask (.receipt handle.hash) world
  have calmThen := stays (fun _ harmless => harmless) calm
  have settlesThen := settles.grows ahead
  have found := settlesThen.finds.receipt_eq calmThen.polls
  generalize asked : client.ledger.ask (.receipt handle.hash) world = answered at told left
  obtain ⟨answer, middle⟩ := answered
  obtain rfl : answer = .ok (some receipt) := told.trans found
  cases byItself :
      Poll.ofReceipt (max client.config.confirmation.confirmations 1) receipt with
  | some found =>
      obtain ⟨rfl, -⟩ := Poll.settled_of_ofReceipt byItself
      rw [await_of_settled (run_poll_of_receipt asked byItself)]
  | none =>
      obtain ⟨succeeded, several⟩ := (Poll.ofReceipt_eq_none_iff _ receipt).mp byItself
      have continues := reached.continues_answer sender (.receipt handle.hash) world.now
      rw [← left] at continues
      have settlesBehind := settlesThen.grows continues.grows
      obtain ⟨deeper, above, staysToo, toldHead, -⟩ := shared.ask .blockNumber middle
      have calmLast := staysToo (fun _ harmless => harmless) (continues.calm calmThen)
      have newest : deeper.blockNumber = .ok deeper.head := by
        rw [State.blockNumber, calmLast.head, if_neg Bool.false_ne_true]
      have lookedUp : client.ledger.ask .blockNumber middle = (.ok deeper.head, _) :=
        Prod.ext (toldHead.trans newest) rfl
      have deep :
          Poll.ofDepth (max client.config.confirmation.confirmations 1) receipt deeper.head =
            .settled receipt.outcome := by
        rw [Poll.ofDepth_eq_settled_iff (Nat.le_max_right _ _) succeeded]
        refine ⟨rfl, ?_⟩
        rcases (settlesBehind.grows above).enough with failed | single | deep
        · rw [succeeded] at failed
          cases failed
        · exact absurd single several
        · exact deep
      have polled := run_poll_of_head asked byItself lookedUp
      rw [deep] at polled
      rw [await_of_settled polled]

/--
While nobody lowers the head, a receipt that the in-memory ledger has answered with lies at or below
the head, and every later answer for its transaction is the same one. A wait that ended as confirmed
or reverted ends so again with the same receipt, whatever was done to the ledger since, unless
failures are injected into the later wait.
-/
theorem await_final (sender : Option Address) :
    (∀ (state : State) (hash : Hash) (receipt : Receipt) (operations : List Operation),
      (state.receipt hash).1 = .ok (some receipt) →
      KeepsHead sender (state.receipt hash).2 operations →
      let later := performAll sender (state.receipt hash).2 operations
      receipt.block ≤ later.head ∧
        ∀ answer, (later.receipt hash).1 = .ok answer → answer = some receipt) ∧
    ∀ (σ τ : Type) (client : Client σ) (other : Client τ) (view : σ → State) (viewOther : τ → State)
      (handle : Handle) (timeout timeoutOther : Nat) (world : World σ) (worldOther : World τ)
      (operations : List Operation),
      client.ledger.SharesMemory sender view (fun _ => True) →
      other.ledger.SharesMemory sender viewOther (·.injectsFailure = false) →
      other.config.confirmation.confirmations = client.config.confirmation.confirmations →
      KeepsHead sender (view (client.await handle timeout world).2.ledger) operations →
      viewOther worldOther.ledger =
        performAll sender (view (client.await handle timeout world).2.ledger) operations →
      (viewOther worldOther.ledger).IsCalm →
      (client.await handle timeout world).1.outcome.isTerminal = true →
      (other.await handle timeoutOther worldOther).1 = (client.await handle timeout world).1 := by
  refine ⟨?_, ?_⟩
  · intro state hash receipt operations found kept
    have finds := (State.Finds.of_receipt found).grows (State.grows_performAll kept)
    exact ⟨finds.within, fun answer told => finds.eq_of_receipt told⟩
  · intro σ τ client other view viewOther handle timeout timeoutOther world worldOther operations
      shared sharedOther sameDepth kept reached calm terminal
    obtain ⟨receipt, result, settles⟩ := settles_of_await shared handle timeout world terminal
    have settlesLater := settles.grows (State.grows_performAll kept)
    rw [← reached, ← sameDepth] at settlesLater
    rw [result, await_of_settles sharedOther settlesLater calm timeoutOther]

end Client

/-- The in-memory ledger, where somebody else mines a block before each call. -/
def Memory.busyLedger : Ledger State where
  defaultSender := none
  answer call time state := answer none call time { state with head := state.head + 1 }

theorem Memory.busyLedger_sharesMemory :
    busyLedger.SharesMemory none id (·.injectsFailure = false) :=
  fun _ _ state =>
    ⟨[.chain (.mine 1)], by simp [Operation.injectsFailure], ⟨Nat.le_succ state.head, trivial⟩, rfl,
      rfl⟩

/-- A transaction that its first query includes, and one that is never included. -/
def Memory.twoSent : State where
  head := 100
  sent :=
    [⟨7, ⟨1, []⟩, none, 0, none, none, .confirm, 0, none⟩,
      ⟨8, ⟨2, []⟩, none, 0, none, none, .neverMined, 0, none⟩]

/-- What is done between two waits for the first of these transactions. -/
def Memory.meddling : List Operation :=
  [.scriptWrite ⟨1, "write", [], {}⟩ .neverMined, .ask (.receipt 8) 5, .chain (.mine 3),
    .ask (.receipt 7) 6]

/--
The receipt is found once more after the meddling. Where others mine as well, two blocks hold the
transaction at once, and it is confirmed again.
-/
theorem Client.await_final_on_busyLedger :
    let client : Client State :=
      { ledger := busyLedger, config := Config.withConfirmations {} 2 }
    let first := client.await ⟨7, "write", none, none⟩ 5000 (World.start twoSent)
    let later := World.start (performAll none first.2.ledger meddling)
    ((performAll none (twoSent.receipt 7).2 meddling).receipt 7).1 =
        .ok (some ⟨7, 101, 21000, 1000000000, true⟩) ∧
      first.1.outcome = .confirmed ⟨7, 102, 21000, 1000000000, true⟩ ∧
        (client.await ⟨7, "write", none, none⟩ 0 later).1 = first.1 := by
  obtain ⟨receiptsStay, outcomesStay⟩ := Client.await_final none
  obtain ⟨-, same⟩ :=
    receiptsStay twoSent 7 ⟨7, 101, 21000, 1000000000, true⟩ meddling rfl (by decide +kernel)
  refine ⟨congrArg Except.ok (same _ rfl), by decide +kernel, ?_⟩
  exact
    outcomesStay State State _ _ id id _ 5000 0 (World.start twoSent) _ meddling
      (fun call time state =>
        (busyLedger_sharesMemory call time state).imp fun _ holds => ⟨fun _ _ => trivial, holds.2⟩)
      busyLedger_sharesMemory rfl (by decide +kernel) rfl ⟨by decide +kernel, by decide +kernel⟩
      (by decide +kernel)

end ContractGateway
