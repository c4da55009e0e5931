import ContractGateway.Session.Lookups

/-!
# Steps about reads

Steps that open batches, enqueue reads, execute batches, and take values out of their results. A
query does all of it at once.
-/

namespace ContractGateway

/-- A read: a method of a contract, its arguments, and the type of the value. -/
structure ReadSpec where
  contract : String
  method : String
  type : SlotType
  arguments : List AbiValue

/-- A step about reads. -/
inductive ReadStep where
  | openAt (name : String) (block : BlockRef)
  | describe (batch : String)
  | enqueue (batch name : String) (read : ReadSpec)
  | addRaw (batch name : String) (target : Address) (label : String) (calldata : Bytes)
  | execute (batch name : String)
  | query (block : BlockRef) (reads : List ReadSpec) (name : String)
  | value (slot results : String)
  | take (slot results : String)
  | bytes (slot results : String)

/-- What a step about reads answers. -/
inductive ReadReply where
  | done
  /-- The step names something that is not there. -/
  | unnamed
  | batch (batch : Batch)
  /-- A new slot, and the length of its batch. -/
  | slot (kept : KeptSlot) (length : Nat)
  | results (results : Results)
  | queried (results : Results) (values : List (Option Datum))
  | datum (value : Option Datum)

namespace Session

/-- The field of a read on a contract. -/
def fieldOf (contract : Contract) (read : ReadSpec) : Except GatewayError (Field read.type) :=
  (Field.bind read.type contract read.method).map (·.withArguments read.arguments)

/-- A new batch. -/
def newBatch (block : BlockRef) : Act Batch := do
  let session ← get
  set { session with nextBatch := session.nextBatch + 1 }
  return { id := session.nextBatch, block }

/-- Keeps a batch under its name. -/
def keepBatch (name : String) (batch : Batch) : Act Unit :=
  modify fun session => { session with batches := (name, batch) :: session.batches }

/-- Keeps a slot under its name. -/
def keepSlot (name : String) (kept : KeptSlot) : Act Unit :=
  modify fun session => { session with slots := (name, kept) :: session.slots }

/-- Keeps results under their name. -/
def keepResults (name : String) (results : Results) : Act Unit :=
  modify fun session => { session with results := (name, results) :: session.results }

/-- Executes a batch, with the batch after it. -/
def executed
    (client : Client Scripted.State)
    (batch : Batch) : Act (Except GatewayError Results × Batch) :=
  liftProcess (batch.execute client.ledger client.parsers client.config.reads.maxCalls)

/-- Enqueues reads on their contracts, in order. -/
def enqueueReads :
    List (Contract × ReadSpec) → Batch → Except GatewayError (List KeptSlot × Batch)
  | [], batch => .ok ([], batch)
  | (contract, read) :: rest, batch => do
      let field ← fieldOf contract read
      let (slot, batch) ← field.enqueue batch
      let (slots, batch) ← enqueueReads rest batch
      return (⟨read.type, slot⟩ :: slots, batch)

/-- The value of a slot as a datum. -/
def KeptSlot.datum (kept : KeptSlot) (results : Results) : Option Datum :=
  (results.get kept.slot).map (⟨kept.type, ·⟩)

/-- Performs a step about reads. -/
def performRead (client : Client Scripted.State) : ReadStep → Act ReadReply
  | .openAt name block => do
      keepBatch name (← newBatch block)
      return .done
  | .describe name => do
      match (← get).batches.lookup name with
      | none => return .unnamed
      | some batch => return .batch batch
  | .enqueue name slotName read => do
      let contract ← contractOf read.contract
      match (← get).batches.lookup name with
      | none => return .unnamed
      | some batch =>
          let field ← liftResult (fieldOf contract read)
          let (slot, batch) ← liftResult (field.enqueue batch)
          keepBatch name batch
          keepSlot slotName ⟨read.type, slot⟩
          return .slot ⟨read.type, slot⟩ batch.requests.length
  | .addRaw name slotName target label calldata => do
      match (← get).batches.lookup name with
      | none => return .unnamed
      | some batch =>
          let (slot, batch) ← liftResult (batch.addRaw target label calldata)
          keepBatch name batch
          keepSlot slotName ⟨.bytes, slot⟩
          return .slot ⟨.bytes, slot⟩ batch.requests.length
  | .execute name resultsName => do
      match (← get).batches.lookup name with
      | none => return .unnamed
      | some batch =>
          let (outcome, batch) ← executed client batch
          keepBatch name batch
          let results ← liftResult outcome
          keepResults resultsName results
          return .results results
  | .query block reads name => do
      let contracts ← contractsOf (reads.map (·.contract))
      let batch ← newBatch block
      let (slots, batch) ← liftResult (enqueueReads (contracts.zip reads) batch)
      let (outcome, _) ← executed client batch
      let results ← liftResult outcome
      keepResults name results
      return .queried results (slots.map (KeptSlot.datum · results))
  | .value slot results => do
      let session ← get
      match session.slots.lookup slot, session.results.lookup results with
      | some kept, some results => return .datum (KeptSlot.datum kept results)
      | _, _ => return .unnamed
  | .take slot name => do
      let session ← get
      match session.slots.lookup slot, session.results.lookup name with
      | some kept, some results =>
          let (value, results) := results.take kept.slot
          keepResults name results
          return .datum (value.map (⟨kept.type, ·⟩))
      | _, _ => return .unnamed
  | .bytes slot results => do
      let session ← get
      match session.slots.lookup slot, session.results.lookup results with
      | some kept, some results =>
          return .datum (if kept.type = .bytes then KeptSlot.datum kept results else none)
      | _, _ => return .unnamed

end Session

end ContractGateway
