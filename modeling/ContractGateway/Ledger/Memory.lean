import ContractGateway.Crypto.Keccak
import ContractGateway.Ledger.Basic
import ContractGateway.Revert.Reason

/-!
# The in-memory ledger

A ledger that lives in memory and behaves like a small chain: reads are scripted, accepted
transactions get a hash and a nonce and are included in the next block once enough receipt
queries have been made, and failures can be injected. It keeps a record of its round trips and
of everything it accepted.

The newest block only ever moves up to a block that a receipt was found in, unless it is set.
-/

namespace ContractGateway

namespace Memory

/-- How the dry run of a write ends. -/
inductive DryRun where
  | gas (amount : Nat)
  /-- A revert with a text. -/
  | revert (reason : String)
  | fail (message : String)
  deriving DecidableEq, Repr

/-- When and how a write is included. -/
inductive Inclusion where
  /-- At the first receipt query after some that find nothing. -/
  | after (polls : Nat) (succeeds : Bool)
  | never
  deriving DecidableEq, Repr

/-- How a write behaves. -/
structure Behavior where
  dryRun : DryRun := .gas 50000
  inclusion : Inclusion := .after 0 true
  /-- The message that the send is rejected with. -/
  rejection : Option String := none
  deriving DecidableEq, Repr

namespace Behavior

/-- Included successfully at the first query. -/
def confirm : Behavior := {}

/-- Included successfully after some queries. -/
def confirmAfter (polls : Nat) : Behavior := { inclusion := .after polls true }

/-- Passes the dry run and fails in its block. -/
def revertOnChain : Behavior := { inclusion := .after 0 false }

/-- Reverts in the dry run. -/
def revertInSimulation (reason : String) : Behavior := { dryRun := .revert reason }

/-- Accepted and never included. -/
def neverMined : Behavior := { inclusion := .never }

/-- Rejected by the send. -/
def rejectSend (message : String) : Behavior := { rejection := some message }

end Behavior

/-- One round trip. -/
structure RoundTrip where
  block : Nat
  calls : List ReadCall
  deriving DecidableEq, Repr

/-- An accepted transaction. -/
structure Sent where
  hash : Hash
  call : ReadCall
  sender : Option Address
  nonce : Nat
  gasLimit : Option Nat
  fees : Option Pricing
  behavior : Behavior
  /-- The receipt queries so far. -/
  polls : Nat := 0
  /-- The block of the transaction, once a query has found it. -/
  block : Option Nat := none
  deriving DecidableEq, Repr

/-- The state of the ledger. Of several scripts for the same thing the latest stands first. -/
structure State where
  head : Nat := 0
  advanceHead : Bool := false
  reads : List (ReadCall × CallOutcome) := []
  readsAt : List ((Nat × ReadCall) × CallOutcome) := []
  writes : List (ReadCall × Behavior) := []
  /-- The round trips so far, newest first. -/
  roundTrips : List RoundTrip := []
  failingRoundTrips : List Nat := []
  failBlockNumber : Bool := false
  legacyFees : Bool := false
  failingPolls : Nat := 0
  pollMessage : String := "connection reset by peer"
  nonces : List (Address × Nat) := []
  /-- The accepted transactions in order. -/
  sent : List Sent := []
  estimates : Nat := 0

namespace State

/-- The failure of a round trip or of a receipt query. -/
def connectionReset : String := "connection reset by peer"

/-- The call that a transaction makes; a transaction without a target makes none. -/
def callOf (request : TransactionRequest) : Except TransportError ReadCall :=
  match request.target with
  | some target => .ok ⟨target, request.input.getD []⟩
  | none => .error (.custom "transaction has no target")

/-- The error of a node whose dry run reverted with a text. -/
def revertError (reason : String) : TransportError :=
  .response 3 "execution reverted"
    (some (Json.string (Bytes.toHex (Revert.errorData reason))).compact)

/-- The outcome of a read: scripted for this block, else for any block, else an empty failure. -/
def read (state : State) (block : Nat) (call : ReadCall) : CallOutcome :=
  (state.readsAt.lookup (block, call) <|> state.reads.lookup call).getD (.failure [])

/-- The behavior of a write. -/
def behavior (state : State) (call : ReadCall) : Behavior :=
  (state.writes.lookup call).getD {}

/-- The next nonce of an account. -/
def nextNonce (state : State) (account : Address) : Nat := (state.nonces.lookup account).getD 0

/-- Sets the next nonce of an account. -/
def setNonce (state : State) (account : Address) (nonce : Nat) : State :=
  { state with nonces := (account, nonce) :: state.nonces }

/-- The newest block. -/
def blockNumber (state : State) : Except TransportError Nat :=
  if state.failBlockNumber then .error (.custom "connection refused") else .ok state.head

/-- One round trip, which is recorded even when it fails. -/
def aggregate
    (state : State)
    (calls : List ReadCall)
    (block : Nat) : Except TransportError (List CallOutcome) × State :=
  let number := state.roundTrips.length
  let next :=
    { state with
      roundTrips := ⟨block, calls⟩ :: state.roundTrips
      head := if state.advanceHead then state.head + 1 else state.head }
  if state.failingRoundTrips.contains number then (.error (.custom connectionReset), next)
  else (.ok (calls.map (state.read block)), next)

/-- A dry run. -/
def estimateGas
    (state : State)
    (request : TransactionRequest) : Except TransportError Nat × State :=
  match callOf request with
  | .error cause => (.error cause, state)
  | .ok call =>
      let next := { state with estimates := state.estimates + 1 }
      match (state.behavior call).dryRun with
      | .gas amount => (.ok amount, next)
      | .revert reason => (.error (revertError reason), next)
      | .fail message => (.error (.custom message), next)

/-- The nonce that a transaction is accepted with, and the nonces after it. -/
def takeNonce
    (state : State)
    (sender : Option Address)
    (nonce : Option Nat) : Nat × State :=
  match sender, nonce with
  | some sender, some nonce =>
      (nonce, state.setNonce sender (max (state.nextNonce sender) (nonce + 1)))
  | some sender, none =>
      (state.nextNonce sender, state.setNonce sender (state.nextNonce sender + 1))
  | none, nonce => (nonce.getD 0, state)

/-- The hash of the next transaction: of its target, its call data and its number. -/
def transactionHash (state : State) (call : ReadCall) : Hash :=
  Keccak.hash
    (Address.toBytes call.target ++ call.calldata ++ Bytes.ofNat 8 state.sent.length)

/-- Sends a transaction. -/
def send
    (state : State)
    (defaultSender : Option Address)
    (request : TransactionRequest) : Except TransportError Hash × State :=
  match callOf request with
  | .error cause => (.error cause, state)
  | .ok call =>
      let behavior := state.behavior call
      match behavior.rejection with
      | some message => (.error (.custom message), state)
      | none =>
          let sender := request.sender <|> defaultSender
          let (nonce, next) := state.takeNonce sender request.nonce
          let hash := state.transactionHash call
          let sent : Sent :=
            { hash, call, sender, nonce, gasLimit := request.gasLimit, fees := request.fees,
              behavior }
          (.ok hash, { next with sent := next.sent ++ [sent] })

/-- The receipt of an accepted transaction at its next query, and the transaction after it. -/
def inclusion (head : Nat) (sent : Sent) : Option Receipt × Sent :=
  let polled := { sent with polls := sent.polls + 1 }
  match sent.behavior.inclusion with
  | .never => (none, polled)
  | .after polls succeeds =>
      if sent.polls < polls then (none, polled)
      else
        let block := sent.block.getD (head + 1)
        (some
          { hash := sent.hash
            block
            gasUsed := min (sent.gasLimit.getD 21000) 50000
            price := 1000000000
            succeeded := succeeds },
          { polled with block := some block })

/-- A receipt query for the first accepted transaction of a hash. -/
def receipt (state : State) (hash : Hash) : Except TransportError (Option Receipt) × State :=
  if state.failingPolls ≠ 0 then
    (.error (.custom state.pollMessage), { state with failingPolls := state.failingPolls - 1 })
  else
    match state.sent.findIdx? (·.hash = hash) with
    | none => (.ok none, state)
    | some position =>
        match state.sent[position]? with
        | none => (.ok none, state)
        | some sent =>
            let (found, polled) := inclusion state.head sent
            let head :=
              match found with
              | some receipt => max state.head receipt.block
              | none => state.head
            (.ok found, { state with sent := state.sent.set position polled, head })

/-- What the network suggests as fees, unless it has no suggestion. -/
def estimateFees (state : State) : Except TransportError FeeEstimate :=
  if state.legacyFees then .error (.unsupported "eth_feeHistory")
  else .ok ⟨30000000000, 1000000000⟩

end State

/-- The answers of the in-memory ledger. -/
def answer (defaultSender : Option Address) :
    (call : LedgerCall) → (time : Nat) → State → Except TransportError call.Answer × State
  | .blockNumber, _, state => (state.blockNumber, state)
  | .aggregate calls block, _, state => state.aggregate calls block
  | .estimateGas request, _, state => state.estimateGas request
  | .estimateFees, _, state => (state.estimateFees, state)
  | .gasPrice, _, state => (.ok 20000000000, state)
  | .pendingNonce account, _, state => (.ok (state.nextNonce account), state)
  | .send request, _, state => state.send defaultSender request
  | .receipt hash, _, state => state.receipt hash

/-- The in-memory ledger with a default sender. -/
def ledger (sender : Option Address) : Ledger State where
  defaultSender := sender
  answer := answer sender

end Memory

end ContractGateway
