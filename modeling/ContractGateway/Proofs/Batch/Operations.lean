import ContractGateway.Proofs.Batch.Delivery
import ContractGateway.Session.Reads

/-!
# What a caller does with batches

A caller opens batches, appends reads to them, executes them, and gets or takes values out of the
results, in any order and with any of them at a time. `Reads.State.perform` is one such operation,
and `Reads.run` does one after the other with a record of what came of them. `Reads.move_perform`
lists all that an operation can do to what the caller holds.
-/

namespace ContractGateway.Reads

/-- What a caller holds, each kind in the order in which it came, and the world it acts in. -/
structure State (σ : Type) where
  nextBatch : Nat
  batches : List Batch
  slots : List KeptSlot
  results : List Results
  world : World σ

/-- One thing that a caller does; batches, slots and results are named by their places. -/
inductive Operation where
  | openAt (block : BlockRef)
  | add (batch : Nat) (request : Request)
  | enqueue (batch : Nat) (type : SlotType) (field : Field type)
  | execute (batch maxCalls : Nat)
  | get (slot results : Nat)
  | take (slot results : Nat)

/-- What comes of an operation. -/
inductive Reply where
  | done
  /-- The operation names something that is not there. -/
  | unnamed
  | refused (error : GatewayError)
  | slot (kept : KeptSlot)
  | results
  | datum (value : Option Datum)

/-- An operation with its reply and with the exchanges that were made for it. -/
structure Event where
  operation : Operation
  reply : Reply
  exchanges : List Exchange

namespace Operation

/-- The batch that an operation acts on. -/
def batch? : Operation → Option Nat
  | .add number _ | .enqueue number _ _ | .execute number _ => some number
  | _ => none

/-- The batch that an operation appends to, and the request that it appends if it can. -/
def asks? : Operation → Option (Nat × Except GatewayError Request)
  | .add number request => some (number, .ok request)
  | .enqueue number _ field =>
      some
        (number,
          (Contract.callData field.getter field.label field.arguments).map field.request)
  | _ => none

end Operation

namespace State

variable {σ : Type}

/-- A caller that holds nothing yet. -/
def start (nextBatch : Nat) (world : World σ) : State σ := ⟨nextBatch, [], [], [], world⟩

/-- Keeps a batch in its place and the slot that was given for its newest request. -/
def keep
    {type : SlotType}
    (state : State σ)
    (number : Nat) :
    Except GatewayError (Slot type × Batch) → Reply × State σ
  | .error error => (.refused error, state)
  | .ok (slot, batch) =>
      (.slot ⟨type, slot⟩,
        { state with
          batches := state.batches.set number batch
          slots := state.slots ++ [⟨type, slot⟩] })

/-- Does one thing. -/
def perform
    (ledger : Ledger σ)
    (parsers : List Revert.ErrorParser)
    (state : State σ) : Operation → Reply × State σ
  | .openAt block =>
      (.done,
        { state with
          nextBatch := state.nextBatch + 1
          batches := state.batches ++ [{ id := state.nextBatch, block }] })
  | .add number request =>
      match state.batches[number]? with
      | none => (.unnamed, state)
      | some batch => state.keep number (batch.add request)
  | .enqueue number _ field =>
      match state.batches[number]? with
      | none => (.unnamed, state)
      | some batch => state.keep number (field.enqueue batch)
  | .execute number maxCalls =>
      match state.batches[number]? with
      | none => (.unnamed, state)
      | some batch =>
          let ((answer, batch), world) := batch.execute ledger parsers maxCalls state.world
          let state := { state with batches := state.batches.set number batch, world }
          match answer with
          | .error error => (.refused error, state)
          | .ok results => (.results, { state with results := state.results ++ [results] })
  | .get slot place =>
      match state.slots[slot]?, state.results[place]? with
      | some kept, some results => (.datum (Session.KeptSlot.datum kept results), state)
      | _, _ => (.unnamed, state)
  | .take slot place =>
      match state.slots[slot]?, state.results[place]? with
      | some kept, some results =>
          let (value, results) := results.take kept.slot
          (.datum (value.map (⟨kept.type, ·⟩)),
            { state with results := state.results.set place results })
      | _, _ => (.unnamed, state)

end State

section Runs

variable {σ : Type} (ledger : Ledger σ) (parsers : List Revert.ErrorParser)

/-- Does one more thing and puts it on record. -/
def record (past : List Event × State σ) (operation : Operation) : List Event × State σ :=
  let (reply, next) := past.2.perform ledger parsers operation
  let exchanges := next.world.history.drop past.2.world.history.length
  (past.1 ++ [⟨operation, reply, exchanges⟩], next)

/-- Does one thing after the other, with a record of all of it. -/
def run (state : State σ) (operations : List Operation) : List Event × State σ :=
  operations.foldl (record ledger parsers) ([], state)

end Runs

namespace Event

/-- The batch and the request that a slot was given for. -/
def issue? : Event → Option (Nat × Request)
  | ⟨operation, .slot _, _⟩ =>
      operation.asks?.bind fun asked => asked.2.toOption.map (asked.1, ·)
  | _ => none

/-- The batch that was executed, whatever came of it. -/
def execution? : Event → Option Nat
  | ⟨.execute _ _, .unnamed, _⟩ => none
  | ⟨.execute number _, _, _⟩ => some number
  | _ => none

/-- The batch that gave results, with the exchanges of its execution. -/
def delivery? : Event → Option (Nat × List Exchange)
  | ⟨.execute number _, .results, exchanges⟩ => some (number, exchanges)
  | _ => none

/-- The slot whose value was taken out of some results, if it was still there. -/
def taking? : Event → Option (Nat × Nat)
  | ⟨.take slot place, .datum _, _⟩ => some (slot, place)
  | _ => none

end Event

section Projections

variable (events : List Event)

/-- For each slot, the batch and the request that it was given for. -/
def issued : List (Nat × Request) := events.filterMap Event.issue?

/-- The batches that were executed. -/
def executed : List Nat := events.filterMap Event.execution?

/-- For each results, the batch that they came from and the exchanges of its execution. -/
def delivered : List (Nat × List Exchange) := events.filterMap Event.delivery?

/-- The slots that were taken, each with the results that it was taken from. -/
def taken : List (Nat × Nat) := events.filterMap Event.taking?

end Projections

section Moves

variable {σ : Type} {ledger : Ledger σ} {parsers : List Revert.ErrorParser} {state : State σ}

/-- The state behind a request that was appended to a batch. -/
def State.appended
    (state : State σ)
    (number : Nat)
    (batch : Batch)
    (request : Request) : State σ :=
  { state with
    batches := state.batches.set number { batch with requests := batch.requests ++ [request] }
    slots := state.slots ++ [⟨request.type, ⟨batch.id, batch.requests.length⟩⟩] }

/-- What an operation can do to a state, and what is replied to it. -/
inductive Move (ledger : Ledger σ) (state : State σ) : Operation → Reply → State σ → Prop where
  | opened (block : BlockRef) :
      Move ledger state (.openAt block) .done
        { state with
          nextBatch := state.nextBatch + 1
          batches := state.batches ++ [{ id := state.nextBatch, block }] }
  | unnamed (operation : Operation) : Move ledger state operation .unnamed state
  | refused
      (operation : Operation)
      (number : Nat)
      (asked : Except GatewayError Request)
      (error : GatewayError)
      (asks : operation.asks? = some (number, asked)) :
      Move ledger state operation (.refused error) state
  | appended
      (operation : Operation)
      (number : Nat)
      (batch : Batch)
      (request : Request)
      (asks : operation.asks? = some (number, .ok request))
      (named : state.batches[number]? = some batch)
      (isOpen : batch.closed = false) :
      Move ledger state operation
        (.slot ⟨request.type, ⟨batch.id, batch.requests.length⟩⟩)
        (state.appended number batch request)
  | repeated
      (number maxCalls : Nat)
      (batch : Batch)
      (named : state.batches[number]? = some batch)
      (closed : batch.closed = true) :
      Move ledger state (.execute number maxCalls) (.refused .batchClosed) state
  | failed
      (number maxCalls : Nat)
      (batch : Batch)
      (error : GatewayError)
      (world : World σ)
      (named : state.batches[number]? = some batch)
      (isOpen : batch.closed = false) :
      Move ledger state (.execute number maxCalls) (.refused error)
        { state with batches := state.batches.set number batch.spent, world }
  | delivered
      (number maxCalls : Nat)
      (batch : Batch)
      (results : Results)
      (data : List Datum)
      (exchanges : List Exchange)
      (world : World σ)
      (named : state.batches[number]? = some batch)
      (isOpen : batch.closed = false)
      (added : world.history = state.world.history ++ exchanges)
      (same : results.batch = batch.id)
      (values : results.values = data.map some)
      (each :
        List.Forall₂ (fun request datum => request.Delivered exchanges datum)
          batch.requests data) :
      Move ledger state (.execute number maxCalls) .results
        { state with
          batches := state.batches.set number batch.spent
          results := state.results ++ [results]
          world }
  | got
      (slot place : Nat)
      (kept : KeptSlot)
      (results : Results)
      (held : state.slots[slot]? = some kept)
      (named : state.results[place]? = some results) :
      Move ledger state (.get slot place) (.datum (Session.KeptSlot.datum kept results)) state
  | took
      (slot place : Nat)
      (kept : KeptSlot)
      (results : Results)
      (held : state.slots[slot]? = some kept)
      (named : state.results[place]? = some results) :
      Move ledger state (.take slot place)
        (.datum ((results.take kept.slot).1.map (⟨kept.type, ·⟩)))
        { state with results := state.results.set place (results.take kept.slot).2 }

/-- An operation that appends to a batch does so as the batch is open and the request is had. -/
theorem perform_of_asks?
    {operation : Operation}
    {number : Nat}
    {asked : Except GatewayError Request}
    {batch : Batch}
    (asks : operation.asks? = some (number, asked))
    (named : state.batches[number]? = some batch) :
    state.perform ledger parsers operation =
      if batch.closed then (.refused .batchClosed, state)
      else
        match asked with
        | .error error => (.refused error, state)
        | .ok request =>
            (.slot ⟨request.type, ⟨batch.id, batch.requests.length⟩⟩,
              state.appended number batch request) := by
  cases operation with
  | add place request =>
      cases asks
      cases closed : batch.closed <;>
        simp [State.perform, named, Batch.add, closed, State.keep, State.appended]
  | enqueue place type field =>
      cases asks
      cases closed : batch.closed <;>
        cases called : Contract.callData field.getter field.label field.arguments <;>
          simp [State.perform, named, Field.enqueue, closed, called, Except.map, Batch.add,
            State.keep, State.appended, Field.request]
  | _ => cases asks

theorem set_getElem?_self
    {α : Type}
    {items : List α}
    {place : Nat}
    {item : α}
    (standing : items[place]? = some item) :
    items.set place item = items := by
  obtain ⟨inside, rfl⟩ := List.getElem?_eq_some_iff.mp standing
  exact List.set_getElem_self inside

/-- An open batch that is executed is spent, whatever comes of it. -/
theorem move_execute
    (number maxCalls : Nat)
    (batch : Batch)
    (named : state.batches[number]? = some batch)
    (isOpen : batch.closed = false) :
    Move ledger state (.execute number maxCalls)
      (state.perform ledger parsers (.execute number maxCalls)).1
      (state.perform ledger parsers (.execute number maxCalls)).2 := by
  obtain ⟨exchanges, added, spent, delivers⟩ :=
    Batch.yields_execute_delivered ledger parsers maxCalls isOpen state.world
  simp only [State.perform, named]
  generalize batch.execute ledger parsers maxCalls state.world = outcome at added spent delivers ⊢
  obtain ⟨⟨answer, after⟩, world⟩ := outcome
  obtain rfl : after = batch.spent := spent
  cases answer with
  | error error => exact .failed number maxCalls batch error world named isOpen
  | ok results =>
      obtain ⟨same, data, values, each⟩ := delivers results rfl
      exact .delivered number maxCalls batch results data exchanges world named isOpen added same
        values each

theorem perform_execute_of_closed
    {number : Nat}
    {batch : Batch}
    (named : state.batches[number]? = some batch)
    (closed : batch.closed = true)
    (maxCalls : Nat) :
    state.perform ledger parsers (.execute number maxCalls) = (.refused .batchClosed, state) := by
  simp [State.perform, named, Batch.execute, closed, set_getElem?_self named]

theorem move_of_asks?
    {operation : Operation}
    {number : Nat}
    {asked : Except GatewayError Request}
    {batch : Batch}
    (asks : operation.asks? = some (number, asked))
    (named : state.batches[number]? = some batch) :
    Move ledger state operation (state.perform ledger parsers operation).1
      (state.perform ledger parsers operation).2 := by
  rw [perform_of_asks? asks named]
  cases closed : batch.closed with
  | true => exact .refused operation number asked .batchClosed asks
  | false =>
      cases asked with
      | error error => exact .refused operation number _ error asks
      | ok request => exact .appended operation number batch request asks named closed

/-- Whatever is done, the state moves in one of these ways. -/
theorem move_perform (operation : Operation) :
    Move ledger state operation (state.perform ledger parsers operation).1
      (state.perform ledger parsers operation).2 := by
  cases operation with
  | openAt block => exact .opened block
  | add number request =>
      cases named : state.batches[number]? with
      | none =>
          simp only [State.perform, named]
          exact .unnamed _
      | some batch => exact move_of_asks? rfl named
  | enqueue number type field =>
      cases named : state.batches[number]? with
      | none =>
          simp only [State.perform, named]
          exact .unnamed _
      | some batch => exact move_of_asks? rfl named
  | execute number maxCalls =>
      cases named : state.batches[number]? with
      | none =>
          simp only [State.perform, named]
          exact .unnamed _
      | some batch =>
          cases closed : batch.closed with
          | true =>
              rw [perform_execute_of_closed named closed]
              exact .repeated number maxCalls batch named closed
          | false => exact move_execute number maxCalls batch named closed
  | get slot place =>
      cases held : state.slots[slot]? with
      | none =>
          simp only [State.perform, held]
          exact .unnamed _
      | some kept =>
          cases named : state.results[place]? with
          | none =>
              simp only [State.perform, held, named]
              exact .unnamed _
          | some results =>
              simp only [State.perform, held, named]
              exact .got slot place kept results held named
  | take slot place =>
      cases held : state.slots[slot]? with
      | none =>
          simp only [State.perform, held]
          exact .unnamed _
      | some kept =>
          cases named : state.results[place]? with
          | none =>
              simp only [State.perform, held, named]
              exact .unnamed _
          | some results =>
              simp only [State.perform, held, named]
              exact .took slot place kept results held named

end Moves

section Values

variable {type further : SlotType} {found : Results}

theorem take_fst (found : Results) (slot : Slot type) :
    (found.take slot).1 = found.get slot := by
  rw [Results.take]
  split
  · rfl
  · rename_i apart
    rw [Results.get, if_neg apart]

/-- Taking the value of one place leaves the values of all others. -/
theorem get_take_of_ne
    {slot : Slot type}
    {other : Slot further}
    (apart : slot.batch = other.batch → slot.index ≠ other.index) :
    (found.take slot).2.get other = found.get other := by
  rw [Results.take]
  split
  · rename_i own
    by_cases alike : other.batch = found.batch
    · have elsewhere := apart (own.trans alike.symm)
      simp only [Results.get, if_pos alike, List.getElem?_set_ne elsewhere]
    · simp only [Results.get, if_neg alike]
  · rfl

theorem datum_of_foreign
    {kept : KeptSlot}
    (foreign : kept.slot.batch ≠ found.batch) :
    Session.KeptSlot.datum kept found = none := by
  rw [Session.KeptSlot.datum, Results.get, if_neg foreign]
  rfl

theorem datum_of_standing
    {kept : KeptSlot}
    {stored : Option Datum}
    (own : kept.slot.batch = found.batch)
    (standing : found.values[kept.slot.index]? = some stored)
    (typed : ∀ datum, stored = some datum → datum.type = kept.type) :
    Session.KeptSlot.datum kept found = stored := by
  rw [Session.KeptSlot.datum, Results.get, if_pos own, standing]
  cases stored with
  | none => rfl
  | some datum =>
      obtain ⟨type, value⟩ := datum
      obtain ⟨_, slot⟩ := kept
      obtain rfl := typed _ rfl
      simp

end Values

section Performing

variable {σ : Type} (ledger : Ledger σ) (parsers : List Revert.ErrorParser) {state : State σ}
  {slot place : Nat} {kept : KeptSlot} {found : Results}

theorem perform_get
    (held : state.slots[slot]? = some kept)
    (named : state.results[place]? = some found) :
    state.perform ledger parsers (.get slot place) =
      (.datum (Session.KeptSlot.datum kept found), state) := by
  simp [State.perform, held, named]

theorem perform_take
    (held : state.slots[slot]? = some kept)
    (named : state.results[place]? = some found) :
    state.perform ledger parsers (.take slot place) =
      (.datum (Session.KeptSlot.datum kept found),
        { state with results := state.results.set place (found.take kept.slot).2 }) := by
  simp [State.perform, held, named, Session.KeptSlot.datum, take_fst]

/-- What a slot gets depends on the slot and on the results alone. -/
theorem get_congr
    {other : State σ}
    (slots : other.slots[slot]? = state.slots[slot]?)
    (results : other.results[place]? = state.results[place]?) :
    (other.perform ledger parsers (.get slot place)).1 =
      (state.perform ledger parsers (.get slot place)).1 := by
  simp only [State.perform, slots, results]
  cases state.slots[slot]? with
  | none => rfl
  | some kept => cases state.results[place]? <;> rfl

end Performing

end ContractGateway.Reads
