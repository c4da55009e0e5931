import ContractGateway.Config
import ContractGateway.Error
import ContractGateway.Ledger.Basic
import ContractGateway.Revert.Reason

/-!
# Batched reads

A batch collects reads and executes them against one block. Reads of the same call data on the
same contract share one physical call (`Sharing` keeps which), the physical calls travel in round
trips of limited size, and each request decodes the outcome of its own call. A batch executes
once: it gives all its values or the error of the first request that fails.

A slot names the place of a request in its batch. `Results.get` gives a slot's value from the
results of its own batch only, and `Results.take` gives it at most once.
-/

namespace ContractGateway

/-- The block that a batch is read at. -/
inductive BlockRef where
  /-- The newest block when the batch executes. -/
  | latest
  | number (block : Nat)
  deriving DecidableEq, Repr

/-- A value together with the slot type it belongs to. -/
structure Datum where
  type : SlotType
  value : type.Value

namespace Datum

/-- The value as one of a slot type, if it belongs to that type. -/
def as? (datum : Datum) (type : SlotType) : Option type.Value :=
  if same : datum.type = type then some (same ▸ datum.value) else none

@[simp] theorem as?_self (type : SlotType) (value : type.Value) :
    as? ⟨type, value⟩ type = some value := by
  simp [as?]

end Datum

/-- One read of a batch, with the reading of its return data. -/
structure Request where
  target : Address
  label : String
  calldata : Bytes
  type : SlotType
  decode : Bytes → Except SlotError type.Value

/-- The physical call that a request needs. -/
def Request.call (request : Request) : ReadCall := ⟨request.target, request.calldata⟩

/-- Reads to be executed together. -/
structure Batch where
  id : Nat
  block : BlockRef
  requests : List Request := []
  closed : Bool := false

/-- The place of a read in its batch. -/
structure Slot (type : SlotType) where
  batch : Nat
  index : Nat
  deriving DecidableEq, Repr

namespace Slot

variable {type : SlotType}

/-- The description of a slot, its batch named by a text. -/
def describe (slot : Slot type) (batch : String) : String :=
  Text.record "Slot" [("batch_id", batch), ("index", toString slot.index)]

end Slot

/-- The description of a block reference. -/
def BlockRef.describe : BlockRef → String
  | .latest => "Latest"
  | .number block => "Number(" ++ toString block ++ ")"

/-- How the requests of a batch share physical calls. -/
structure Sharing where
  /-- The distinct calls, in the order they are first needed. -/
  calls : List ReadCall := []
  /-- For each call, the request that needs it first. -/
  owners : List Nat := []
  /-- For each request, the place of its call. -/
  places : List Nat := []
  /-- The place of each call found so far. -/
  seen : List (ReadCall × Nat) := []

namespace Sharing

/-- Takes in the call of one more request, which is a new call unless it was seen before. -/
def add (sharing : Sharing) (call : ReadCall) : Sharing :=
  match sharing.seen.lookup call with
  | some place => { sharing with places := sharing.places ++ [place] }
  | none =>
      { calls := sharing.calls ++ [call]
        owners := sharing.owners ++ [sharing.places.length]
        places := sharing.places ++ [sharing.calls.length]
        seen := (call, sharing.calls.length) :: sharing.seen }

/-- How some requests share calls. -/
def ofRequests (requests : List Request) : Sharing :=
  requests.foldl (fun sharing request => sharing.add request.call) {}

/-- The request that needs the call at a place first. -/
def owner? (sharing : Sharing) (requests : List Request) (place : Nat) : Option Request :=
  sharing.owners[place]?.bind (requests[·]?)

/-- The outcome for the request at an index, among the outcomes of all calls. -/
def outcome? (sharing : Sharing) (outcomes : List CallOutcome) (index : Nat) :
    Option CallOutcome :=
  sharing.places[index]?.bind (outcomes[·]?)

end Sharing

namespace Batch

/-- The description of a batch, named by a text. -/
def describe (batch : Batch) (name : String) : String :=
  Text.record "Batch"
    [("id", name),
      ("block", batch.block.describe),
      ("calls", toString batch.requests.length),
      ("closed", toString batch.closed)]

/-- Appends one request; a closed batch takes none. -/
def add
    (batch : Batch)
    (request : Request) : Except GatewayError (Slot request.type × Batch) :=
  if batch.closed then .error .batchClosed
  else
    .ok (⟨batch.id, batch.requests.length⟩,
      { batch with requests := batch.requests ++ [request] })

/-- Appends a read whose value is its undecoded return data. -/
def addRaw
    (batch : Batch)
    (target : Address)
    (label : String)
    (calldata : Bytes) : Except GatewayError (Slot .bytes × Batch) :=
  batch.add { target, label, calldata, type := .bytes, decode := .ok }

/-- The distinct physical calls of some requests, in the order they are first needed. -/
def physicalCalls (requests : List Request) : List ReadCall :=
  (Sharing.ofRequests requests).calls

/-- Physical calls cut into round trips. -/
def roundTrips (maxCalls : Nat) (calls : List ReadCall) : List (List ReadCall) :=
  let size := max maxCalls 1
  (List.range ((calls.length + size - 1) / size)).map fun number =>
    (calls.drop (number * size)).take size

/-- The value of one request from the outcome of its call; the parsers know a revert's reason. -/
def evaluate
    (parsers : List Revert.ErrorParser)
    (index : Nat)
    (request : Request)
    (outcome : CallOutcome) : Except GatewayError Datum :=
  match outcome with
  | .failure data =>
      .error (.batch (some index) request.label (.reverted (Revert.reasonOfCall parsers data)))
  | .success data =>
      match request.decode data with
      | .ok value => .ok ⟨request.type, value⟩
      | .error cause => .error (.slot index request.label cause)

/--
The values of requests in order, each from the outcome at its index; the first request that fails
decides the error.
-/
def evaluateFrom
    (parsers : List Revert.ErrorParser)
    (outcome : Nat → CallOutcome) :
    (index : Nat) → List Request → Except GatewayError (List Datum)
  | _, [] => .ok []
  | index, request :: rest => do
      let value ← evaluate parsers index request (outcome index)
      let values ← evaluateFrom parsers outcome (index + 1) rest
      return value :: values

end Batch

/-- The values of an executed batch. A value that was taken out leaves its place empty. -/
structure Results where
  batch : Nat
  /-- The block of every value; unknown only for an empty batch at the newest block. -/
  block : Option Nat
  values : List (Option Datum)

namespace Results

variable {type : SlotType}

/-- The description of results, their batch named by a text. -/
def describe (results : Results) (batch : String) : String :=
  Text.record "BatchResults"
    [("batch_id", batch),
      ("block", Text.optional (results.block.map toString)),
      ("values", toString results.values.length)]

/-- The value of a slot, for slots of this batch whose value was not taken out. -/
def get (results : Results) (slot : Slot type) : Option type.Value :=
  if slot.batch = results.batch then
    (results.values[slot.index]?.join).bind (·.as? type)
  else none

/-- Takes the value of a slot out. -/
def take (results : Results) (slot : Slot type) : Option type.Value × Results :=
  if slot.batch = results.batch then
    (results.get slot, { results with values := results.values.set slot.index none })
  else (none, results)

end Results

namespace Batch

variable {σ : Type}

/-- The block that a batch is pinned to; the newest one is looked up once. -/
def pin
    (ledger : Ledger σ)
    (label : String)
    (block : BlockRef) : Process σ (Except GatewayError Nat) :=
  match block with
  | .number block => return .ok block
  | .latest => do
      match ← ledger.ask .blockNumber with
      | .ok block => return .ok block
      | .error cause => return .error (.batch none label (.headUnavailable cause))

/--
Makes the round trips in order, each under its label. The first one that fails or answers a wrong
number of calls ends the batch.
-/
def travel
    (ledger : Ledger σ)
    (label : (number : Nat) → String)
    (block : Nat) :
    (number : Nat) → List (List ReadCall) →
      Process σ (Except GatewayError (List CallOutcome))
  | _, [] => return .ok []
  | number, calls :: rest => do
      match ← ledger.ask (.aggregate calls block) with
      | .error cause => return .error (.batch none (label number) (.roundTrip number cause))
      | .ok outcomes =>
          if outcomes.length = calls.length then
            match ← travel ledger label block (number + 1) rest with
            | .error error => return .error error
            | .ok more => return .ok (outcomes ++ more)
          else
            return .error
              (.batch none (label number) (.resultCount number outcomes.length calls.length))

/-- The label of a round trip: that of the request that needs its first call first. -/
def roundTripLabel
    (maxCalls : Nat)
    (sharing : Sharing)
    (requests : List Request)
    (number : Nat) : String :=
  ((sharing.owner? requests (number * max maxCalls 1)).map (·.label)).getD ""

/-- The values of the requests of a batch that is not empty. -/
def evaluateAll
    (ledger : Ledger σ)
    (parsers : List Revert.ErrorParser)
    (maxCalls : Nat)
    (batch : Batch)
    (first : Request) : Process σ (Except GatewayError Results) := do
  let sharing := Sharing.ofRequests batch.requests
  match ← pin ledger first.label batch.block with
  | .error error => return .error error
  | .ok block =>
      let label := roundTripLabel maxCalls sharing batch.requests
      let calls := physicalCalls batch.requests
      match ← travel ledger label block 0 (roundTrips maxCalls calls) with
      | .error error => return .error error
      | .ok outcomes =>
          let outcome := fun index => (sharing.outcome? outcomes index).getD (.failure [])
          return (evaluateFrom parsers outcome 0 batch.requests).map fun values =>
            ⟨batch.id, some block, values.map some⟩

/-- The block that an empty batch reports. -/
def emptyBlock : BlockRef → Option Nat
  | .latest => none
  | .number block => some block

/-- A batch after its execution: closed and without its requests. -/
def spent (batch : Batch) : Batch := { batch with requests := [], closed := true }

/-- Executes a batch and closes it. A closed batch is refused without a call to the ledger. -/
def execute
    (ledger : Ledger σ)
    (parsers : List Revert.ErrorParser)
    (maxCalls : Nat)
    (batch : Batch) : Process σ (Except GatewayError Results × Batch) := do
  if batch.closed then return (.error .batchClosed, batch)
  match batch.requests with
  | [] => return (.ok ⟨batch.id, emptyBlock batch.block, []⟩, batch.spent)
  | first :: _ => return (← evaluateAll ledger parsers maxCalls batch first, batch.spent)

end Batch

end ContractGateway
