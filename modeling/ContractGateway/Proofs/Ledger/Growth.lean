import ContractGateway.Session.Auction

/-!
# What the in-memory ledger never takes back

The in-memory ledger keeps a record of every transaction that it has accepted. A record stays at its
place, and of what it holds only two things ever change: the queries that it counts, and its block,
which is set once. `State.GrowsInto` says this of two states, together with a head that is not
lower. Behind every answer the ledger has grown and treats everybody as before
(`continues_answer`). It grows whatever else is done to it (`Operation`), as long as nobody lowers
the head.

A receipt rests on such a record, so it stays as it was found: `State.Finds` holds behind the query
that found it and is handed on by growth.
-/

namespace ContractGateway.Memory

/-- A record later on. More queries are counted, and a block stays once it is set. -/
structure Sent.Becomes (earlier later : Sent) : Prop where
  same : later = { earlier with polls := later.polls, block := later.block }
  polls : earlier.polls ≤ later.polls
  block : ∀ block, earlier.block = some block → later.block = some block

namespace Sent.Becomes

variable {first second third : Sent}

theorem refl (sent : Sent) : sent.Becomes sent := ⟨rfl, Nat.le_refl _, fun _ found => found⟩

theorem trans (before : first.Becomes second) (behind : second.Becomes third) :
    first.Becomes third where
  same := by rw [behind.same, before.same]
  polls := Nat.le_trans before.polls behind.polls
  block block found := behind.block block (before.block block found)

theorem hash_eq (becomes : first.Becomes second) : second.hash = first.hash := by
  rw [becomes.same]

theorem call_eq (becomes : first.Becomes second) : second.call = first.call := by
  rw [becomes.same]

theorem behavior_eq (becomes : first.Becomes second) : second.behavior = first.behavior := by
  rw [becomes.same]

end Sent.Becomes

/-- Whatever the head is, the next query for the transaction finds this receipt. -/
def Sent.Shows (sent : Sent) (receipt : Receipt) : Prop :=
  ∀ head, (State.inclusion head sent).1 = some receipt

namespace State

/-- A query leaves the record of its transaction behind. -/
theorem becomes_inclusion (head : Nat) (sent : Sent) : sent.Becomes (inclusion head sent).2 := by
  have counted : sent.polls ≤ sent.polls + 1 := Nat.le_succ _
  rw [inclusion]
  cases sent.behavior.inclusion with
  | never =>
      exact ⟨rfl, counted, fun _ found => found⟩
  | after polls succeeds =>
      dsimp only
      split
      · exact ⟨rfl, counted, fun _ found => found⟩
      · refine ⟨rfl, counted, fun block found => ?_⟩
        simp [found]

/-- What a query has found, every later query finds. -/
theorem shows_inclusion
    {head : Nat}
    {sent : Sent}
    {receipt : Receipt}
    (found : (inclusion head sent).1 = some receipt) :
    (inclusion head sent).2.Shows receipt := by
  intro later
  rw [inclusion] at found ⊢
  cases included : sent.behavior.inclusion with
  | never =>
      simp [included] at found
  | after polls succeeds =>
      by_cases early : sent.polls < polls
      · simp [included, early] at found
      · have stillLate : ¬ sent.polls + 1 < polls := by omega
        simpa [inclusion, included, early, stillLate] using found

end State

theorem Sent.Shows.becomes
    {earlier later : Sent}
    {receipt : Receipt}
    (shows : earlier.Shows receipt)
    (becomes : earlier.Becomes later) :
    later.Shows receipt := by
  intro head
  -- The record has its block: else the head would show in the receipt.
  have found := shows head
  have foundAbove := shows (head + 1)
  have counted := becomes.polls
  rw [becomes.same]
  rw [State.inclusion] at found foundAbove ⊢
  cases included : earlier.behavior.inclusion with
  | never =>
      simp [included] at found
  | after polls succeeds =>
      by_cases early : earlier.polls < polls
      · simp [included, early] at found
      · cases placed : earlier.block with
        | none =>
            simp only [included, early, placed, if_false, Option.getD_none] at found foundAbove
            have blocks := congrArg (Option.map Receipt.block) (found.trans foundAbove.symm)
            simp at blocks
        | some block =>
            have stillLate : ¬ later.polls < polls := by omega
            simpa [included, early, placed, stillLate, becomes.block block placed] using found

namespace State

/-- The head has not fallen, and the records stand where they stood. -/
structure GrowsInto (earlier later : State) : Prop where
  head : earlier.head ≤ later.head
  sent :
    ∀ (position : Nat) (sent : Sent),
      earlier.sent[position]? = some sent →
        ∃ other : Sent, later.sent[position]? = some other ∧ sent.Becomes other

/-- The record that a receipt query is for: the first one with its hash. -/
def holder? (state : State) (hash : Hash) : Option Sent := state.sent.find? (·.hash = hash)

namespace GrowsInto

variable {first second third : State}

theorem refl (state : State) : state.GrowsInto state :=
  ⟨Nat.le_refl _, fun _ sent found => ⟨sent, found, .refl sent⟩⟩

theorem trans (before : first.GrowsInto second) (behind : second.GrowsInto third) :
    first.GrowsInto third where
  head := Nat.le_trans before.head behind.head
  sent position sent found := by
    obtain ⟨middle, held, becomes⟩ := before.sent position sent found
    obtain ⟨last, stillHeld, goesOn⟩ := behind.sent position middle held
    exact ⟨last, stillHeld, becomes.trans goesOn⟩

/-- Where the records are left alone, only the head matters. -/
theorem of_sent_eq
    (same : second.sent = first.sent)
    (risen : first.head ≤ second.head) :
    first.GrowsInto second :=
  ⟨risen, fun _ sent found => ⟨sent, same ▸ found, .refl sent⟩⟩

/-- A further record changes none of the others. -/
theorem of_sent_append
    {added : List Sent}
    (appended : second.sent = first.sent ++ added)
    (risen : first.head ≤ second.head) :
    first.GrowsInto second := by
  refine ⟨risen, fun position sent found => ⟨sent, ?_, .refl sent⟩⟩
  rw [appended, List.getElem?_append_left (List.getElem?_eq_some_iff.mp found).1]
  exact found

/-- A record may give way to what it becomes. -/
theorem of_sent_set
    {position : Nat}
    {sent other : Sent}
    (held : first.sent[position]? = some sent)
    (becomes : sent.Becomes other)
    (replaced : second.sent = first.sent.set position other)
    (risen : first.head ≤ second.head) :
    first.GrowsInto second := by
  refine ⟨risen, fun place found holds => ?_⟩
  rw [replaced]
  by_cases own : position = place
  · subst own
    obtain rfl : sent = found := Option.some.inj (held.symm.trans holds)
    exact ⟨other, List.getElem?_set_self (List.getElem?_eq_some_iff.mp held).1, becomes⟩
  · exact ⟨found, (List.getElem?_set_ne own).trans holds, .refl found⟩

/-- The hashes of the accepted transactions stand in front of those of later ones. -/
theorem prefix_hashes (grows : first.GrowsInto second) :
    first.sent.map (·.hash) <+: second.sent.map (·.hash) := by
  rw [List.prefix_iff_getElem?]
  intro position within
  rw [List.length_map] at within
  obtain ⟨other, held, becomes⟩ :=
    grows.sent position first.sent[position] (List.getElem?_eq_getElem within)
  rw [List.getElem?_map, held, Option.map_some, becomes.hash_eq, List.getElem_map]

/-- A query is for the same record as before. -/
theorem holder?_eq
    (grows : first.GrowsInto second)
    {hash : Hash}
    {sent : Sent}
    (held : first.holder? hash = some sent) :
    ∃ other, second.holder? hash = some other ∧ sent.Becomes other := by
  obtain ⟨own, position, within, rfl, others⟩ := List.find?_eq_some_iff_getElem.mp held
  obtain ⟨other, found, becomes⟩ := grows.sent position _ (List.getElem?_eq_getElem within)
  obtain ⟨place, rfl⟩ := List.getElem?_eq_some_iff.mp found
  refine ⟨_, List.find?_eq_some_iff_getElem.mpr ⟨?_, position, place, rfl, ?_⟩, becomes⟩
  · simpa [becomes.hash_eq] using own
  · intro earlier before
    obtain ⟨_, foundEarlier, becomesEarlier⟩ :=
      grows.sent earlier _ (List.getElem?_eq_getElem (Nat.lt_trans before within))
    obtain ⟨_, rfl⟩ := List.getElem?_eq_some_iff.mp foundEarlier
    simpa [becomesEarlier.hash_eq] using others earlier before

end GrowsInto

/-- No failure of a receipt query or of a lookup of the newest block is due. -/
structure IsCalm (state : State) : Prop where
  polls : state.failingPolls = 0
  head : state.failBlockNumber = false

/-- The ledger has grown, treats writes as before, and fails no more than before. -/
structure Continues (earlier later : State) : Prop where
  grows : earlier.GrowsInto later
  writes : later.writes = earlier.writes
  polls : later.failingPolls ≤ earlier.failingPolls
  lookups : later.failBlockNumber = earlier.failBlockNumber

namespace Continues

variable {first second third : State}

theorem refl (state : State) : state.Continues state := ⟨.refl state, rfl, Nat.le_refl _, rfl⟩

theorem trans (before : first.Continues second) (behind : second.Continues third) :
    first.Continues third where
  grows := before.grows.trans behind.grows
  writes := behind.writes.trans before.writes
  polls := Nat.le_trans behind.polls before.polls
  lookups := behind.lookups.trans before.lookups

theorem behavior_eq (continues : first.Continues second) : second.behavior = first.behavior := by
  funext call
  rw [behavior, behavior, continues.writes]

theorem calm (continues : first.Continues second) (calm : first.IsCalm) : second.IsCalm where
  polls := Nat.le_zero.mp (calm.polls ▸ continues.polls)
  head := continues.lookups.trans calm.head

end Continues

/-- A query that finds no record tells so and changes nothing. -/
theorem receipt_of_unknown
    {state : State}
    {hash : Hash}
    (working : state.failingPolls = 0)
    (unknown : state.holder? hash = none) :
    state.receipt hash = (.ok none, state) := by
  have nowhere : state.sent.findIdx? (·.hash = hash) = none := by
    rw [List.findIdx?_eq_none_iff]
    simpa [holder?] using unknown
  rw [receipt, if_neg (not_not_intro working), nowhere]

/--
A query that finds a record takes its answer from it, and leaves what becomes of it in its place.
-/
theorem receipt_of_held
    {state : State}
    {hash : Hash}
    {sent : Sent}
    (working : state.failingPolls = 0)
    (held : state.holder? hash = some sent) :
    (state.receipt hash).1 = .ok (inclusion state.head sent).1 ∧
      (state.receipt hash).2.holder? hash = some (inclusion state.head sent).2 ∧
        ∃ position,
          state.sent[position]? = some sent ∧
            (state.receipt hash).2 =
              { state with
                sent := state.sent.set position (inclusion state.head sent).2
                head :=
                  match (inclusion state.head sent).1 with
                  | some receipt => max state.head receipt.block
                  | none => state.head } := by
  obtain ⟨own, position, within, rfl, others⟩ := List.find?_eq_some_iff_getElem.mp held
  have place : state.sent.findIdx? (·.hash = hash) = some position :=
    List.findIdx?_eq_some_iff_getElem.mpr ⟨within, own, by simpa using others⟩
  have found := List.getElem?_eq_getElem within
  have asked :
      state.receipt hash =
        (.ok (inclusion state.head state.sent[position]).1,
          { state with
            sent := state.sent.set position (inclusion state.head state.sent[position]).2
            head :=
              match (inclusion state.head state.sent[position]).1 with
              | some receipt => max state.head receipt.block
              | none => state.head }) := by
    rw [receipt, if_neg (not_not_intro working), place]
    dsimp only
    cases listed : state.sent[position]? with
    | none => exact nomatch found.symm.trans listed
    | some sent =>
        obtain rfl := Option.some.inj (found.symm.trans listed)
        rfl
  rw [asked]
  refine ⟨rfl, ?_, position, found, rfl⟩
  refine List.find?_eq_some_iff_getElem.mpr ⟨?_, position, by simpa using within, by simp, ?_⟩
  · simpa [(becomes_inclusion state.head state.sent[position]).hash_eq] using own
  · intro earlier before
    simpa [List.getElem_set_ne (Nat.ne_of_gt before)] using others earlier before

/-- The ledger continues behind a receipt query, whether it fails, finds something or neither. -/
theorem continues_receipt (state : State) (hash : Hash) :
    state.Continues (state.receipt hash).2 := by
  by_cases working : state.failingPolls = 0
  · cases held : state.holder? hash with
    | none =>
        rw [receipt_of_unknown working held]
        exact .refl state
    | some sent =>
        obtain ⟨-, -, position, found, asked⟩ := receipt_of_held working held
        rw [asked]
        refine
          ⟨.of_sent_set found (becomes_inclusion state.head sent) rfl ?_, rfl, Nat.le_refl _, rfl⟩
        cases (inclusion state.head sent).1 with
        | none => exact Nat.le_refl _
        | some receipt => exact Nat.le_max_left _ _
  · rw [receipt, if_pos working]
    exact ⟨.of_sent_eq rfl (Nat.le_refl _), rfl, Nat.sub_le _ _, rfl⟩

/-- Taking a nonce leaves everything but the nonces alone. -/
theorem takeNonce_eq (state : State) (sender : Option Address) (nonce : Option Nat) :
    ∃ taken nonces, state.takeNonce sender nonce = (taken, { state with nonces }) := by
  cases sender with
  | none => exact ⟨_, state.nonces, rfl⟩
  | some sender => cases nonce <;> exact ⟨_, _, rfl⟩

/-- What is accepted is put behind everything else, with the behavior that its call has by then. -/
theorem send_of_accepted
    {state : State}
    {request : TransactionRequest}
    {call : ReadCall}
    (called : callOf request = .ok call)
    (accepted : (state.behavior call).rejection = none)
    (defaultSender : Option Address) :
    ∃ (nonces : List (Address × Nat)) (sent : Sent),
      sent.call = call ∧ sent.behavior = state.behavior call ∧ sent.block = none ∧
        state.send defaultSender request =
          (.ok sent.hash, { state with nonces, sent := state.sent ++ [sent] }) := by
  obtain ⟨nonce, nonces, taken⟩ :=
    state.takeNonce_eq (request.sender <|> defaultSender) request.nonce
  rw [send]
  simp only [called, accepted, taken]
  exact
    ⟨nonces,
      { hash := state.transactionHash call, call, sender := request.sender <|> defaultSender, nonce,
        gasLimit := request.gasLimit, fees := request.fees, behavior := state.behavior call },
      rfl, rfl, rfl, rfl⟩

/-- A send that is not accepted changes nothing. -/
theorem send_cases (state : State) (defaultSender : Option Address) (request : TransactionRequest) :
    (∃ cause, state.send defaultSender request = (.error cause, state)) ∨
      ∃ call, callOf request = .ok call ∧ (state.behavior call).rejection = none := by
  rw [send]
  cases callOf request with
  | error cause => exact .inl ⟨cause, rfl⟩
  | ok call =>
      cases rejects : (state.behavior call).rejection with
      | some message => exact .inl ⟨.custom message, by simp only [rejects]⟩
      | none => exact .inr ⟨call, rfl, rejects⟩

/-- The ledger continues behind every answer. -/
theorem continues_answer
    (sender : Option Address)
    (call : LedgerCall)
    (time : Nat)
    (state : State) :
    state.Continues (answer sender call time state).2 := by
  have unmoved : state.head ≤ state.head := Nat.le_refl _
  have still : state.failingPolls ≤ state.failingPolls := Nat.le_refl _
  cases call with
  | blockNumber => exact .refl state
  | estimateFees => exact .refl state
  | gasPrice => exact .refl state
  | pendingNonce account => exact .refl state
  | aggregate calls block =>
      rw [answer, aggregate]
      have risen : state.head ≤ if state.advanceHead then state.head + 1 else state.head := by
        split <;> omega
      split <;> exact ⟨.of_sent_eq rfl risen, rfl, still, rfl⟩
  | estimateGas request =>
      rw [answer, estimateGas]
      cases callOf request with
      | error cause => exact .refl state
      | ok call =>
          dsimp only
          split <;> exact ⟨.of_sent_eq rfl unmoved, rfl, still, rfl⟩
  | send request =>
      rw [answer]
      rcases state.send_cases sender request with ⟨cause, refused⟩ | ⟨call, called, accepted⟩
      · rw [refused]
        exact .refl state
      · obtain ⟨nonces, sent, -, -, -, taken⟩ := send_of_accepted called accepted sender
        rw [taken]
        exact ⟨.of_sent_append rfl unmoved, rfl, still, rfl⟩
  | receipt hash => exact state.continues_receipt hash

end State

/-- What can be done to the in-memory ledger: a change of the chain, a script, or a call. -/
inductive Operation where
  | chain (step : Auction.ChainStep)
  | scriptRead (call : ReadCall) (block : Option Nat) (outcome : CallOutcome)
  | scriptWrite (write : PreparedWrite) (behavior : Behavior)
  | ask (call : LedgerCall) (time : Nat)

/-- The ledger after an operation. -/
def Operation.perform (sender : Option Address) (state : State) : Operation → State
  | .chain step => Auction.Session.moveChain state step
  | .scriptRead call block outcome => Auction.Session.scriptOutcome call block outcome state
  | .scriptWrite write behavior => Auction.scriptWrite write behavior state
  | .ask call time => (answer sender call time state).2

/-- The ledger after operations, one after the other. -/
def performAll (sender : Option Address) (state : State) (operations : List Operation) : State :=
  operations.foldl (Operation.perform sender) state

/-- None of the operations, performed one after the other, lowers the head. -/
def KeepsHead (sender : Option Address) : State → List Operation → Prop
  | _, [] => True
  | state, operation :: rest =>
      state.head ≤ (operation.perform sender state).head ∧
        KeepsHead sender (operation.perform sender state) rest

instance KeepsHead.decidable (sender : Option Address) :
    (state : State) → (operations : List Operation) → Decidable (KeepsHead sender state operations)
  | _, [] => inferInstanceAs (Decidable True)
  | state, operation :: rest =>
      have := KeepsHead.decidable sender (operation.perform sender state) rest
      inferInstanceAs (Decidable (_ ∧ _))

namespace State

/-- An operation that does not lower the head lets the ledger grow. -/
theorem grows_perform
    {sender : Option Address}
    {state : State}
    (operation : Operation)
    (kept : state.head ≤ (operation.perform sender state).head) :
    state.GrowsInto (operation.perform sender state) := by
  cases operation with
  | chain step => cases step <;> exact .of_sent_eq rfl kept
  | scriptRead call block outcome => cases block <;> exact .of_sent_eq rfl kept
  | scriptWrite write behavior => exact .of_sent_eq rfl kept
  | ask call time => exact (state.continues_answer sender call time).grows

/-- Whatever is done to the ledger, it grows as long as nobody lowers the head. -/
theorem grows_performAll
    {sender : Option Address}
    {state : State}
    {operations : List Operation}
    (kept : KeepsHead sender state operations) :
    state.GrowsInto (performAll sender state operations) := by
  induction operations generalizing state with
  | nil => exact .refl state
  | cons operation rest inductionHypothesis =>
      exact (grows_perform operation kept.1).trans (inductionHypothesis kept.2)

end State

/-- The operation lets receipt queries or lookups of the newest block fail. -/
def Operation.injectsFailure : Operation → Bool
  | .chain (.failPolls polls _) => polls ≠ 0
  | .chain (.failBlockNumber fails) => fails
  | _ => false

namespace State

/-- An operation that injects no failure leaves a calm ledger calm. -/
theorem IsCalm.perform
    {state : State}
    (calm : state.IsCalm)
    {operation : Operation}
    (harmless : operation.injectsFailure = false)
    (sender : Option Address) :
    (operation.perform sender state).IsCalm := by
  cases operation with
  | chain step =>
      cases step with
      | failPolls polls message =>
          have none : polls = 0 := by simpa [Operation.injectsFailure] using harmless
          exact ⟨none, calm.head⟩
      | failBlockNumber fails => exact ⟨calm.polls, harmless⟩
      | _ => exact ⟨calm.polls, calm.head⟩
  | scriptRead call block outcome => cases block <;> exact ⟨calm.polls, calm.head⟩
  | scriptWrite write behavior => exact ⟨calm.polls, calm.head⟩
  | ask call time => exact (state.continues_answer sender call time).calm calm

/-- The receipt of a transaction was found, in a block that the head has reached. -/
structure Finds (state : State) (hash : Hash) (receipt : Receipt) : Prop where
  held : ∃ sent, state.holder? hash = some sent ∧ sent.Shows receipt
  within : receipt.block ≤ state.head

namespace Finds

variable {state later : State} {hash : Hash} {receipt : Receipt}

/-- A query that finds a receipt leaves it found. -/
theorem of_receipt (found : (state.receipt hash).1 = .ok (some receipt)) :
    (state.receipt hash).2.Finds hash receipt := by
  by_cases working : state.failingPolls = 0
  · cases held : state.holder? hash with
    | none =>
        rw [receipt_of_unknown working held] at found
        cases found
    | some sent =>
        obtain ⟨told, stillHeld, position, -, asked⟩ := receipt_of_held working held
        have shown : (inclusion state.head sent).1 = some receipt :=
          Except.ok.inj (told.symm.trans found)
        refine ⟨⟨_, stillHeld, shows_inclusion shown⟩, ?_⟩
        rw [asked]
        simp only [shown]
        exact Nat.le_max_right _ _
  · rw [State.receipt, if_pos working] at found
    cases found

/-- A receipt that was found stays found. -/
theorem grows
    (finds : state.Finds hash receipt)
    (grows : state.GrowsInto later) :
    later.Finds hash receipt := by
  obtain ⟨sent, held, shows⟩ := finds.held
  obtain ⟨other, stillHeld, becomes⟩ := grows.holder?_eq held
  exact ⟨⟨other, stillHeld, shows.becomes becomes⟩, Nat.le_trans finds.within grows.head⟩

/-- The ledger answers with the receipt, unless queries fail. -/
theorem receipt_eq
    (finds : state.Finds hash receipt)
    (working : state.failingPolls = 0) :
    (state.receipt hash).1 = .ok (some receipt) := by
  obtain ⟨sent, held, shows⟩ := finds.held
  rw [(receipt_of_held working held).1, shows state.head]

/-- The ledger never tells anything else. -/
theorem eq_of_receipt
    (finds : state.Finds hash receipt)
    {answer : Option Receipt}
    (told : (state.receipt hash).1 = .ok answer) :
    answer = some receipt := by
  by_cases working : state.failingPolls = 0
  · exact (Except.ok.inj ((finds.receipt_eq working).symm.trans told)).symm
  · rw [State.receipt, if_pos working] at told
    cases told

end Finds

end State

end ContractGateway.Memory
