import ContractGateway.Auction.Scenario
import ContractGateway.Session.Writes

/-!
# Sessions on an auction

A session on the in-memory ledger with the contracts of an auction. Its steps move the chain,
inject failures, script reads and writes, read lots, write, call the ledger directly, and run
scenarios.
-/

namespace ContractGateway

namespace Auction

/-- One of the contracts of an auction. -/
inductive Role where
  | auction
  | token
  | settings
  deriving DecidableEq, Repr

/-- A change of the chain or of the failures to come. -/
inductive ChainStep where
  | setHead (block : Nat)
  | mine (blocks : Nat)
  | advanceHead
  | legacyFees
  | setNonce (account : Address) (nonce : Nat)
  | failRoundTrip (number : Nat)
  | failBlockNumber (fails : Bool)
  | failPolls (polls : Nat) (message : String)
  deriving DecidableEq, Repr

/-- A step of a session on an auction. -/
inductive Step where
  | head
  | chain (step : ChainStep)
  | scriptLot (index : Nat) (present : Bool) (start : Nat) (price : Word)
  | scriptRead (role : Role) (method : String) (arguments : List AbiValue) (block : Option Nat)
      (outcome : CallOutcome)
  | scriptWrite (write : String) (behavior : Memory.Behavior)
  | useAsAuction (role : Role)
  | roundTrips
  | sent
  | estimateCount
  | defaultSender
  | call (call : LedgerCall)
  | lot (index : Nat)
  | readLots (lots : List Nat) (block : BlockRef)
  | approve (amount : Nat) (name : String)
  | placeBid (index : Nat) (name : String)
  | claimBid (index : Nat) (name : String)
  | prepare (role : Role) (method : String) (arguments : List AbiValue)
      (options : SigningOptions) (name : String)
  | write (step : WriteStep)
  | scenario (scenario : Scenario)

/-- What a step answers. -/
inductive Reply where
  | done
  /-- The step names something that is not there. -/
  | unnamed
  | failed (error : GatewayError)
  | number (value : Nat)
  | roundTrips (values : List Memory.RoundTrip)
  | sent (values : List Memory.Sent)
  | count (value : Nat)
  | sender (value : Option Address)
  | call (call : LedgerCall) (answer : Except TransportError call.Answer)
  | lot (lot : Lot)
  /-- A lot that could not be bound. -/
  | unboundLot (index : Nat) (cause : GatewayError)
  | lots (results : Results) (values : List (Option LotValues))
  | write (reply : WriteReply)
  | scenario (told : List String) (outcome : Except ScenarioError ScenarioReport)

/-- The wording of a lot that could not be bound. -/
def unboundLotMessage (index : Nat) (cause : GatewayError) : String :=
  "failed to bind lot " ++ toString index ++ ": " ++ cause.message

/-- The state of a session: the contracts in their roles, and the writes. -/
structure Session where
  auction : Contract := manager
  token : Contract := Auction.token
  settings : Contract := Auction.settings
  nextBatch : Nat := 0
  book : WriteBook := {}

namespace Session

/-- The contract in a role. -/
def contract (session : Session) : Role → Contract
  | .auction => session.auction
  | .token => session.token
  | .settings => session.settings

/-- The ledger after a change of the chain. -/
def moveChain (state : Memory.State) : ChainStep → Memory.State
  | .setHead block => { state with head := block }
  | .mine blocks => { state with head := state.head + blocks }
  | .advanceHead => { state with advanceHead := true }
  | .legacyFees => { state with legacyFees := true }
  | .setNonce account nonce => state.setNonce account nonce
  | .failRoundTrip number =>
      { state with failingRoundTrips := number :: state.failingRoundTrips }
  | .failBlockNumber fails => { state with failBlockNumber := fails }
  | .failPolls polls message => { state with failingPolls := polls, pollMessage := message }

/-- The ledger with a read scripted for one block or for any block. -/
def scriptOutcome
    (call : ReadCall)
    (block : Option Nat)
    (outcome : CallOutcome)
    (state : Memory.State) : Memory.State :=
  match block with
  | some block => { state with readsAt := ((block, call), outcome) :: state.readsAt }
  | none => { state with reads := (call, outcome) :: state.reads }

/-- The call of a method on a contract. -/
def readCall
    (contract : Contract)
    (method : String)
    (arguments : List AbiValue) : Except GatewayError ReadCall :=
  (contract.encodeCall method arguments).map (⟨contract.address, ·⟩)

/-- The values that the three reads of a lot answer. -/
def lotOutputs (present : Bool) (start : Nat) (price : Word) : List (String × AbiValue) :=
  [("getLotExists", .bool present),
    ("getLotStartBlock", .uint (BitVec.ofNat 256 start) 256),
    ("getLotCurrentPrice", .uint price 256)]

/-- The ledger with methods of a contract scripted for one lot. -/
def scriptOutputs (contract : Contract) (index : Nat) :
    List (String × AbiValue) → Memory.State → Except GatewayError Memory.State
  | [], state => .ok state
  | (method, output) :: rest, state => do
      let call ← readCall contract method (lotIndex index)
      scriptOutputs contract index rest
        (scriptOutcome call none (.success (Abi.encode [output])) state)

/-- A prepared write, kept under a name. -/
def keepWrite
    (session : Session)
    (name : String) : Except GatewayError PreparedWrite → Reply × Session
  | .error error => (.failed error, session)
  | .ok write =>
      (.write (.prepared write), { session with book := session.book.prepare name write })

/-- Reads lots in one batch. Lots are bound before anything is read. -/
def readLots
    (client : Client Memory.State)
    (session : Session)
    (lots : List Nat)
    (block : BlockRef) : Process Memory.State Reply := do
  match lots.mapM (Lot.bind session.auction) with
  | .error error => return .failed error
  | .ok lots =>
      match Lot.enqueueAll lots { id := session.nextBatch, block } with
      | .error error => return .failed error
      | .ok (slots, batch) =>
          match ← batch.execute client.ledger client.parsers client.config.reads.maxCalls with
          | (.error error, _) => return .failed error
          | (.ok results, _) => return .lots results (slots.map (·.values? results))

/-- Performs a step. -/
def perform
    (client : Client Memory.State)
    (session : Session) : Step → Process Memory.State (Reply × Session)
  | .head => do
      return (.number (← get).ledger.head, session)
  | .chain step => do
      modifyLedger (moveChain · step)
      return (.done, session)
  | .scriptLot index present start price => do
      let outputs := lotOutputs present start price
      match scriptOutputs session.auction index outputs (← get).ledger with
      | .error error => return (.failed error, session)
      | .ok state =>
          modifyLedger fun _ => state
          return (.done, session)
  | .scriptRead role method arguments block outcome => do
      match readCall (session.contract role) method arguments with
      | .error error => return (.failed error, session)
      | .ok call =>
          modifyLedger (scriptOutcome call block outcome)
          return (.done, session)
  | .scriptWrite write behavior => do
      match session.book.writes.lookup write with
      | none => return (.unnamed, session)
      | some write =>
          modifyLedger (Auction.scriptWrite write behavior)
          return (.done, session)
  | .useAsAuction role => do
      return (.done, { session with auction := session.contract role })
  | .roundTrips => do
      return (.roundTrips (← get).ledger.roundTrips.reverse, session)
  | .sent => do
      return (.sent (← get).ledger.sent, session)
  | .estimateCount => do
      return (.count (← get).ledger.estimates, session)
  | .defaultSender => do
      return (.sender client.ledger.defaultSender, session)
  | .call call => do
      return (.call call (← client.ledger.ask call), session)
  | .lot index => do
      match Lot.bind session.auction index with
      | .error cause => return (.unboundLot index cause, session)
      | .ok lot => return (.lot lot, session)
  | .readLots lots block => do
      let reply ← readLots client session lots block
      return (reply, { session with nextBatch := session.nextBatch + 1 })
  | .approve amount name => do
      let arguments :=
        [.address session.auction.address, .uint (BitVec.ofNat 256 amount) 256]
      return session.keepWrite name (session.token.prepare "approve" arguments {})
  | .placeBid index name => do
      return session.keepWrite name (Auction.placeBid session.auction index)
  | .claimBid index name => do
      return session.keepWrite name (session.auction.prepare "claimBid" (lotIndex index) {})
  | .prepare role method arguments options name => do
      return session.keepWrite name ((session.contract role).prepare method arguments options)
  | .write step => do
      let (reply, book) ← session.book.perform client step
      return (.write reply, { session with book })
  | .scenario scenario => do
      let (told, outcome) ← scenario.run client session.auction
      return (.scenario told outcome, session)

/-- The answers to steps, one after the other. -/
def run (client : Client Memory.State) :
    List Step → Session → World Memory.State → List (StepAnswer Reply)
  | [], _, _ => []
  | step :: rest, session, world =>
      let (answer, world) := (session.perform client step).answered world
      let (reply, session) := answer.reply
      ⟨reply, answer.exchanges, answer.moved⟩ :: run client rest session world

end Session

/-- The pauses of sessions that need no patience. -/
def quickConfirmation (confirmations : Nat) : ConfirmationConfig where
  pollInterval := 100
  receiptTimeout := 5000
  confirmations := confirmations

/-- The sender of the usual session. -/
def usualSender : Address := repeated 0xA1

/-- The block that a session starts at. -/
def startingBlock : Nat := 100

end Auction

end ContractGateway
