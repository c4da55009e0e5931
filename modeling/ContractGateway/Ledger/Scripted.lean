import ContractGateway.Ledger.Basic

/-!
# A scripted ledger

A ledger that answers as it was told: reads from a table, fees and nonces from its settings,
writes by the script of their call data. Failures can be queued or tied to a round trip. The
newest block moves when it is told to, with every round trip, or with every receipt query.
-/

namespace ContractGateway

namespace Scripted

/-- How a write behaves. -/
structure WriteScript where
  estimateError : Option TransportError := none
  estimate : Nat := 50000
  /-- The failure of the send itself. -/
  reject : Option TransportError := none
  /-- Whether the transaction is never included. -/
  never : Bool := false
  /-- How many receipt queries find nothing before the first that does. -/
  after : Nat := 0
  /-- The receipt query from which on the receipt is gone again. -/
  vanishAt : Option Nat := none
  /-- The block that holds the transaction; the next one when it is first found otherwise. -/
  block : Option Nat := none
  gasUsed : Nat := 21000
  price : Nat := 1000000000
  succeeds : Bool := true

/-- An accepted transaction: its script, its receipt queries so far, and its block once found. -/
structure Accepted where
  script : WriteScript
  polls : Nat := 0
  block : Option Nat := none

/-- What a read answers, at one block or at any block. -/
structure ReadScript where
  call : ReadCall
  block : Option Nat
  outcome : CallOutcome

/-- The state of the ledger. Of several scripts for the same thing the latest stands first. -/
structure State where
  head : Nat := 100
  advanceHead : Bool := false
  minePerPoll : Nat := 0
  nonces : List (Address × Nat) := []
  fees : FeeEstimate := ⟨30000000000, 1000000000⟩
  gasPrice : Nat := 20000000000
  feesError : Option TransportError := none
  gasPriceError : Option TransportError := none
  nonceError : Option TransportError := none
  headErrors : List (Option TransportError) := []
  pollErrors : List (Option TransportError) := []
  failRoundTrip : Option (Nat × TransportError) := none
  resizeRoundTrip : Option (Nat × Nat) := none
  roundTrips : Nat := 0
  reads : List ReadScript := []
  writes : List (ReadCall × WriteScript) := []
  accepted : List Accepted := []

namespace State

/-- The failure at the front of a queue, and the queue behind it. -/
def nextError :
    List (Option TransportError) → Option TransportError × List (Option TransportError)
  | [] => (none, [])
  | first :: rest => (first, rest)

/-- The outcome of a read: scripted for this block, else for any block, else an empty failure. -/
def read (state : State) (block : Nat) (call : ReadCall) : CallOutcome :=
  let scripted (at? : Option Nat) : Option CallOutcome :=
    (state.reads.find? fun script => script.call = call ∧ script.block = at?).map (·.outcome)
  (scripted (some block) <|> scripted none).getD (.failure [])

/-- Cuts outcomes to a length, or fills them up with empty failures. -/
def resize (length : Nat) (outcomes : List CallOutcome) : List CallOutcome :=
  outcomes.take length ++ List.replicate (length - outcomes.length) (.failure [])

/-- The script of a write. -/
def script (state : State) (request : TransactionRequest) : WriteScript :=
  match request.target, request.input with
  | some target, some calldata => (state.writes.lookup ⟨target, calldata⟩).getD {}
  | _, _ => {}

/-- Answers with a value unless an error is set. -/
def valueUnless {α : Type} (error : Option TransportError) (value : α) : Except TransportError α :=
  match error with
  | some cause => .error cause
  | none => .ok value

/-- The newest block. -/
def blockNumber (state : State) : Except TransportError Nat × State :=
  let (error, rest) := nextError state.headErrors
  (valueUnless error state.head, { state with headErrors := rest })

/-- One round trip. -/
def aggregate
    (state : State)
    (calls : List ReadCall)
    (block : Nat) : Except TransportError (List CallOutcome) × State :=
  let number := state.roundTrips
  let next :=
    { state with
      roundTrips := number + 1
      head := if state.advanceHead then state.head + 1 else state.head }
  let outcomes := calls.map (state.read block)
  let sized :=
    match state.resizeRoundTrip with
    | some (resized, length) => if resized = number then resize length outcomes else outcomes
    | none => outcomes
  match state.failRoundTrip with
  | some (failing, cause) => (if failing = number then .error cause else .ok sized, next)
  | none => (.ok sized, next)

/-- Sends a transaction; the number of those accepted so far is its hash. -/
def send
    (state : State)
    (request : TransactionRequest) : Except TransportError Hash × State :=
  let script := state.script request
  match script.reject with
  | some cause => (.error cause, state)
  | none =>
      (.ok (BitVec.ofNat 256 (state.accepted.length + 1)),
        { state with accepted := state.accepted ++ [{ script }] })

/-- The position of an accepted transaction. -/
def position? (state : State) (hash : Hash) : Option Nat :=
  if 0 < hash.toNat ∧ hash.toNat ≤ state.accepted.length then some (hash.toNat - 1) else none

/-- The receipt of an accepted transaction at its next query. -/
def inclusion
    (state : State)
    (hash : Hash)
    (position : Nat)
    (transaction : Accepted) : Option Receipt × State :=
  let script := transaction.script
  let polled := { transaction with polls := transaction.polls + 1 }
  let gone :=
    match script.vanishAt with
    | some query => query ≤ transaction.polls
    | none => false
  if script.never || transaction.polls < script.after || gone then
    (none, { state with accepted := state.accepted.set position polled })
  else
    let block := transaction.block.getD (script.block.getD (state.head + 1))
    (some
      { hash, block, gasUsed := script.gasUsed, price := script.price,
        succeeded := script.succeeds },
      { state with
        accepted := state.accepted.set position { polled with block := some block }
        head := max state.head block })

/-- A receipt query. -/
def receipt (state : State) (hash : Hash) : Except TransportError (Option Receipt) × State :=
  let (error, rest) := nextError state.pollErrors
  let mined := { state with head := state.head + state.minePerPoll, pollErrors := rest }
  match error with
  | some cause => (.error cause, mined)
  | none =>
      match mined.position? hash with
      | none => (.ok none, mined)
      | some position =>
          let transaction := mined.accepted.getD position { script := {} }
          let (found, next) := mined.inclusion hash position transaction
          (.ok found, next)

end State

/-- The answers of the scripted ledger. -/
def answer :
    (call : LedgerCall) → (time : Nat) → State → Except TransportError call.Answer × State
  | .blockNumber, _, state => state.blockNumber
  | .aggregate calls block, _, state => state.aggregate calls block
  | .estimateGas request, _, state =>
      let script := state.script request
      (State.valueUnless script.estimateError script.estimate, state)
  | .estimateFees, _, state => (State.valueUnless state.feesError state.fees, state)
  | .gasPrice, _, state => (State.valueUnless state.gasPriceError state.gasPrice, state)
  | .pendingNonce account, _, state =>
      (State.valueUnless state.nonceError ((state.nonces.lookup account).getD 0), state)
  | .send request, _, state => state.send request
  | .receipt hash, _, state => state.receipt hash

/-- The scripted ledger with a default sender. -/
def ledger (sender : Option Address) : Ledger State where
  defaultSender := sender
  answer := answer

/-- A change of the settings; what is left out stays as it is. -/
structure Change where
  head : Option Nat := none
  mine : Nat := 0
  advanceHead : Option Bool := none
  minePerPoll : Option Nat := none
  nonces : List (Address × Nat) := []
  maxFee : Option Nat := none
  maxPriorityFee : Option Nat := none
  gasPrice : Option Nat := none
  feesError : Option (Option TransportError) := none
  gasPriceError : Option (Option TransportError) := none
  nonceError : Option (Option TransportError) := none
  headErrors : Option (List (Option TransportError)) := none
  pollErrors : Option (List (Option TransportError)) := none
  failRoundTrip : Option (Option (Nat × TransportError)) := none
  resizeRoundTrip : Option (Option (Nat × Nat)) := none

/-- Applies a change. -/
def State.apply (state : State) (change : Change) : State :=
  { state with
    head := change.head.getD state.head + change.mine
    advanceHead := change.advanceHead.getD state.advanceHead
    minePerPoll := change.minePerPoll.getD state.minePerPoll
    nonces := change.nonces.reverse ++ state.nonces
    fees :=
      ⟨change.maxFee.getD state.fees.maxFee,
        change.maxPriorityFee.getD state.fees.maxPriorityFee⟩
    gasPrice := change.gasPrice.getD state.gasPrice
    feesError := change.feesError.getD state.feesError
    gasPriceError := change.gasPriceError.getD state.gasPriceError
    nonceError := change.nonceError.getD state.nonceError
    headErrors := change.headErrors.getD state.headErrors
    pollErrors := change.pollErrors.getD state.pollErrors
    failRoundTrip := change.failRoundTrip.getD state.failRoundTrip
    resizeRoundTrip := change.resizeRoundTrip.getD state.resizeRoundTrip }

end Scripted

end ContractGateway
