import ContractGateway.Proofs.Batch.Operations

/-!
# What a run keeps

The record of a run tells what its caller holds: which batches are closed, which requests are in an
open one, which place a slot has, and which values are left in the results. `Reads.Kept` says so of
a state, `Reads.Kept.move` that every operation keeps it, and `Reads.Kept.run` that every run does.
-/

namespace ContractGateway.Reads

section Places

variable {issues : List (Nat × Request)}

/-- The requests that slots were given for in a batch. -/
def askedOf (issues : List (Nat × Request)) (number : Nat) : List Request :=
  (issues.filter (·.1 = number)).map (·.2)

/-- How many slots of a batch were given before the one at a place. -/
def rank (issues : List (Nat × Request)) (number slot : Nat) : Nat :=
  (askedOf (issues.take slot) number).length

theorem askedOf_append (issues more : List (Nat × Request)) (number : Nat) :
    askedOf (issues ++ more) number = askedOf issues number ++ askedOf more number := by
  simp [askedOf]

theorem askedOf_singleton (number : Nat) (request : Request) :
    askedOf [(number, request)] number = [request] := by
  simp [askedOf]

theorem askedOf_singleton_of_ne
    {number other : Nat}
    (apart : number ≠ other)
    (request : Request) :
    askedOf [(number, request)] other = [] := by
  simp [askedOf, apart]

theorem rank_append
    {slot : Nat}
    (inside : slot ≤ issues.length)
    (more : List (Nat × Request))
    (number : Nat) :
    rank (issues ++ more) number slot = rank issues number slot := by
  rw [rank, List.take_append_of_le_length inside, rank]

theorem rank_length (issues : List (Nat × Request)) (number : Nat) :
    rank issues number issues.length = (askedOf issues number).length := by
  rw [rank, List.take_length]

/-- The requests of a batch up to a slot of it, and behind it. -/
theorem askedOf_eq
    {slot number : Nat}
    {request : Request}
    (standing : issues[slot]? = some (number, request)) :
    askedOf issues number =
      askedOf (issues.take slot) number ++ request :: askedOf (issues.drop (slot + 1)) number := by
  obtain ⟨inside, same⟩ := List.getElem?_eq_some_iff.mp standing
  calc askedOf issues number
      = askedOf (issues.take slot ++ issues.drop slot) number := by rw [List.take_append_drop]
    _ = askedOf (issues.take slot) number ++ askedOf (issues.drop slot) number :=
        askedOf_append _ _ number
    _ = _ := by
        rw [List.drop_eq_getElem_cons inside, same]
        simp [askedOf]

/-- The request of a slot stands at its rank among the requests of its batch. -/
theorem getElem?_askedOf_rank
    {slot number : Nat}
    {request : Request}
    (standing : issues[slot]? = some (number, request)) :
    (askedOf issues number)[rank issues number slot]? = some request := by
  rw [askedOf_eq standing, rank, List.getElem?_append_right (Nat.le_refl _), Nat.sub_self]
  rfl

theorem rank_lt_rank
    {slot other number : Nat}
    {request : Request}
    (standing : issues[slot]? = some (number, request))
    (before : slot < other) :
    rank issues number slot < rank issues number other := by
  have earlier : (issues.take other)[slot]? = some (number, request) := by
    rw [List.getElem?_take_of_lt before, standing]
  have split := askedOf_eq earlier
  rw [List.take_take, Nat.min_eq_left (Nat.le_of_lt before)] at split
  rw [rank, rank, split, List.length_append, List.length_cons]
  omega

/-- Different slots of a batch have different ranks. -/
theorem rank_ne_rank
    {slot other number : Nat}
    {request further : Request}
    (standing : issues[slot]? = some (number, request))
    (otherwise : issues[other]? = some (number, further))
    (apart : slot ≠ other) :
    rank issues number slot ≠ rank issues number other := by
  rcases Nat.lt_or_gt_of_ne apart with before | behind
  · exact Nat.ne_of_lt (rank_lt_rank standing before)
  · exact Nat.ne_of_gt (rank_lt_rank otherwise behind)

end Places

section Lists

variable {α : Type} {items : List α} {place number : Nat} {item found : α}

/-- What stands in a list with one more item stood there before or is that item. -/
theorem getElem?_concat_cases
    (standing : (items ++ [item])[place]? = some found) :
    items[place]? = some found ∨ place = items.length ∧ found = item := by
  rcases Nat.lt_or_ge place items.length with earlier | last
  · rw [List.getElem?_append_left earlier] at standing
    exact .inl standing
  · rw [List.getElem?_append_right last, List.getElem?_singleton] at standing
    split at standing
    · exact .inr ⟨by omega, (Option.some.inj standing).symm⟩
    · cases standing

/-- What stands in a list with a new item in one place is that item or stands in another place. -/
theorem getElem?_set_cases
    (standing : (items.set number item)[place]? = some found) :
    place = number ∧ found = item ∨ place ≠ number ∧ items[place]? = some found := by
  rcases eq_or_ne number place with rfl | apart
  · rw [List.getElem?_set_self'] at standing
    obtain ⟨_, -, same⟩ := Option.map_eq_some_iff.mp standing
    exact .inl ⟨rfl, same.symm⟩
  · rw [List.getElem?_set_ne apart] at standing
    exact .inr ⟨apart.symm, standing⟩

end Lists

/-- A batch of a caller, told from the slots it was given and from what it has executed. -/
structure KeptBatch
    (first : Nat)
    (issues : List (Nat × Request))
    (executions : List Nat)
    (number : Nat)
    (batch : Batch) : Prop where
  id_eq : batch.id = first + number
  closed_iff : batch.closed = true ↔ number ∈ executions
  requests_eq : batch.closed = false → batch.requests = askedOf issues number

/-- The batches of a caller, as many as it opened, with those that it named in its steps. -/
structure KeptBatches
    (first : Nat)
    (issues : List (Nat × Request))
    (executions : List Nat)
    (nextBatch : Nat)
    (batches : List Batch) : Prop where
  next : nextBatch = first + batches.length
  issued : ∀ issue ∈ issues, issue.1 < batches.length
  executed : ∀ number ∈ executions, number < batches.length
  each :
    ∀ number batch,
      batches[number]? = some batch → KeptBatch first issues executions number batch

namespace KeptBatches

variable {first nextBatch number : Nat} {issues : List (Nat × Request)} {executions : List Nat}
  {batches : List Batch} {batch : Batch}

theorem start (first : Nat) : KeptBatches first [] [] first [] := by
  constructor <;> simp

theorem askedOf_length (kept : KeptBatches first issues executions nextBatch batches) :
    askedOf issues batches.length = [] := by
  refine List.map_eq_nil_iff.mpr (List.filter_eq_nil_iff.mpr fun issue member same => ?_)
  have inside := kept.issued issue member
  rw [of_decide_eq_true same] at inside
  exact Nat.lt_irrefl _ inside

theorem not_executed
    (kept : KeptBatches first issues executions nextBatch batches)
    (named : batches[number]? = some batch)
    (isOpen : batch.closed = false) :
    number ∉ executions := by
  intro member
  rw [(kept.each number batch named).closed_iff.mpr member] at isOpen
  cases isOpen

theorem opened
    (kept : KeptBatches first issues executions nextBatch batches)
    (block : BlockRef) :
    KeptBatches first issues executions (nextBatch + 1)
      (batches ++ [{ id := nextBatch, block }]) where
  next := by rw [kept.next, List.length_append, List.length_singleton, Nat.add_assoc]
  issued issue member := by
    rw [List.length_append]
    exact Nat.lt_add_right 1 (kept.issued issue member)
  executed number member := by
    rw [List.length_append]
    exact Nat.lt_add_right 1 (kept.executed number member)
  each number batch named := by
    rcases getElem?_concat_cases named with earlier | ⟨rfl, rfl⟩
    · exact kept.each number batch earlier
    · have fresh : batches.length ∉ executions := fun member =>
        Nat.lt_irrefl _ (kept.executed _ member)
      exact ⟨kept.next, by simp [fresh], fun _ => kept.askedOf_length.symm⟩

/-- A request that is appended to an open batch is the last that is asked of it. -/
theorem appended
    (kept : KeptBatches first issues executions nextBatch batches)
    (named : batches[number]? = some batch)
    (isOpen : batch.closed = false)
    (request : Request) :
    KeptBatches first (issues ++ [(number, request)]) executions nextBatch
      (batches.set number { batch with requests := batch.requests ++ [request] }) where
  next := by rw [kept.next, List.length_set]
  issued issue member := by
    rw [List.length_set]
    rcases List.mem_append.mp member with earlier | last
    · exact kept.issued issue earlier
    · rw [List.mem_singleton.mp last]
      exact (List.getElem?_eq_some_iff.mp named).1
  executed number member := by
    rw [List.length_set]
    exact kept.executed number member
  each place found named' := by
    rcases getElem?_set_cases named' with ⟨rfl, rfl⟩ | ⟨apart, other⟩
    · obtain ⟨same, closed, requests⟩ := kept.each place batch named
      refine ⟨same, closed, fun _ => ?_⟩
      rw [askedOf_append, askedOf_singleton, ← requests isOpen]
    · obtain ⟨same, closed, requests⟩ := kept.each place found other
      refine ⟨same, closed, fun isOpen => ?_⟩
      rw [askedOf_append, askedOf_singleton_of_ne apart.symm, List.append_nil, requests isOpen]

/-- A batch that is spent is executed, whether it was before or not. -/
theorem spent
    (kept : KeptBatches first issues executions nextBatch batches)
    (named : batches[number]? = some batch) :
    KeptBatches first issues (executions ++ [number]) nextBatch
      (batches.set number batch.spent) where
  next := by rw [kept.next, List.length_set]
  issued issue member := by
    rw [List.length_set]
    exact kept.issued issue member
  executed place member := by
    rw [List.length_set]
    rcases List.mem_append.mp member with earlier | last
    · exact kept.executed place earlier
    · rw [List.mem_singleton.mp last]
      exact (List.getElem?_eq_some_iff.mp named).1
  each place found named' := by
    rcases getElem?_set_cases named' with ⟨rfl, rfl⟩ | ⟨apart, other⟩
    · refine ⟨(kept.each place batch named).id_eq, by simp [Batch.spent], ?_⟩
      intro isOpen
      cases isOpen
    · obtain ⟨same, closed, requests⟩ := kept.each place found other
      exact ⟨same, by simp [closed, apart], requests⟩

/-- A batch that is closed and is executed again stays as it is. -/
theorem repeated
    (kept : KeptBatches first issues executions nextBatch batches)
    (named : batches[number]? = some batch)
    (closed : batch.closed = true) :
    KeptBatches first issues (executions ++ [number]) nextBatch batches := by
  have known : number ∈ executions := (kept.each number batch named).closed_iff.mp closed
  have same (place : Nat) : place ∈ executions ++ [number] ↔ place ∈ executions := by
    rw [List.mem_append, List.mem_singleton]
    constructor
    · rintro (earlier | rfl)
      · exact earlier
      · exact known
    · exact .inl
  refine ⟨kept.next, kept.issued, fun place member => kept.executed place ((same place).mp member),
    fun place found standing => ?_⟩
  obtain ⟨own, closed, requests⟩ := kept.each place found standing
  exact ⟨own, closed.trans (same place).symm, requests⟩

end KeptBatches

/-- The slots of a caller: each has the place that its request had in its batch. -/
structure KeptSlots
    (first : Nat)
    (issues : List (Nat × Request))
    (slots : List KeptSlot) : Prop where
  length_eq : slots.length = issues.length
  each :
    ∀ (slot number : Nat) (request : Request),
      issues[slot]? = some (number, request) →
      slots[slot]? = some (.mk request.type ⟨first + number, rank issues number slot⟩)

theorem KeptSlots.appended
    {first : Nat}
    {issues : List (Nat × Request)}
    {slots : List KeptSlot}
    (kept : KeptSlots first issues slots)
    (number : Nat)
    (request : Request) :
    KeptSlots first (issues ++ [(number, request)])
      (slots ++ [⟨request.type, ⟨first + number, (askedOf issues number).length⟩⟩]) where
  length_eq := by rw [List.length_append, List.length_append, kept.length_eq]; rfl
  each slot other further standing := by
    rcases getElem?_concat_cases standing with earlier | ⟨rfl, same⟩
    · have inside := (List.getElem?_eq_some_iff.mp earlier).1
      rw [List.getElem?_append_left (kept.length_eq ▸ inside),
        rank_append (Nat.le_of_lt inside), kept.each slot other further earlier]
    · cases same
      rw [rank_append (Nat.le_refl _), rank_length, ← kept.length_eq,
        List.getElem?_concat_length]

/-- What results hold: the value that was delivered for each slot, until it is taken. -/
def Holds
    (issues : List (Nat × Request))
    (takings : List (Nat × Nat))
    (exchanges : List Exchange)
    (number place : Nat)
    (values : List (Option Datum)) : Prop :=
  ∀ slot request,
    issues[slot]? = some (number, request) →
    ∃ datum,
      request.Delivered exchanges datum ∧
        values[rank issues number slot]? =
          some (if (slot, place) ∈ takings then none else some datum)

theorem Holds.untouched
    {issues : List (Nat × Request)}
    {takings : List (Nat × Nat)}
    {exchanges : List Exchange}
    {number place : Nat}
    {values : List (Option Datum)}
    {taking : Nat × Nat}
    (holds : Holds issues takings exchanges number place values)
    (apart :
      ∀ (slot : Nat) (request : Request),
        issues[slot]? = some (number, request) → (slot, place) ≠ taking) :
    Holds issues (takings ++ [taking]) exchanges number place values := by
  intro slot request standing
  have same : (slot, place) ∈ takings ++ [taking] ↔ (slot, place) ∈ takings := by
    simp [apart slot request standing]
  simp only [same]
  exact holds slot request standing

/-- The value that is taken out is that of one slot; the others of its batch stay. -/
theorem Holds.took
    {issues : List (Nat × Request)}
    {takings : List (Nat × Nat)}
    {exchanges : List Exchange}
    {number place slot : Nat}
    {values : List (Option Datum)}
    {request : Request}
    (holds : Holds issues takings exchanges number place values)
    (standing : issues[slot]? = some (number, request)) :
    Holds issues (takings ++ [(slot, place)]) exchanges number place
      (values.set (rank issues number slot) none) := by
  intro other further named
  obtain ⟨datum, delivered, value⟩ := holds other further named
  refine ⟨datum, delivered, ?_⟩
  rcases eq_or_ne slot other with rfl | apart
  · have inside := (List.getElem?_eq_some_iff.mp value).1
    rw [List.getElem?_set_self inside, if_pos (List.mem_append_right _ List.mem_cons_self)]
  · rw [List.getElem?_set_ne (rank_ne_rank standing named apart), value]
    simp [apart.symm]

/-- The results of a caller, told from what its batches have delivered and what it has taken. -/
structure KeptResults
    (first : Nat)
    (issues : List (Nat × Request))
    (executions : List Nat)
    (deliveries : List (Nat × List Exchange))
    (takings : List (Nat × Nat))
    (results : List Results) : Prop where
  length_eq : results.length = deliveries.length
  taken : ∀ taking ∈ takings, taking.1 < issues.length ∧ taking.2 < deliveries.length
  executed : ∀ delivery ∈ deliveries, delivery.1 ∈ executions
  once : (deliveries.map (·.1)).Nodup
  each :
    ∀ (place number : Nat) (exchanges : List Exchange) (found : Results),
      deliveries[place]? = some (number, exchanges) →
      results[place]? = some found →
      found.batch = first + number ∧
        Holds issues takings exchanges number place found.values

namespace KeptResults

variable {first number : Nat} {issues : List (Nat × Request)} {executions : List Nat}
  {deliveries : List (Nat × List Exchange)} {takings : List (Nat × Nat)} {results : List Results}

/-- A request that is appended to a batch belongs to none of the results. -/
theorem appended
    (kept : KeptResults first issues executions deliveries takings results)
    (isOpen : number ∉ executions)
    (request : Request) :
    KeptResults first (issues ++ [(number, request)]) executions deliveries takings results where
  length_eq := kept.length_eq
  taken taking member := by
    rw [List.length_append]
    exact ⟨Nat.lt_add_right 1 (kept.taken taking member).1, (kept.taken taking member).2⟩
  executed := kept.executed
  once := kept.once
  each place source exchanges found delivered named := by
    obtain ⟨same, holds⟩ := kept.each place source exchanges found delivered named
    refine ⟨same, fun slot other standing => ?_⟩
    rcases getElem?_concat_cases standing with earlier | ⟨-, same⟩
    · have inside := (List.getElem?_eq_some_iff.mp earlier).1
      rw [rank_append (Nat.le_of_lt inside)]
      exact holds slot other earlier
    · cases same
      exact absurd (kept.executed _ (List.mem_of_getElem? delivered)) isOpen

theorem executing
    (kept : KeptResults first issues executions deliveries takings results)
    (number : Nat) :
    KeptResults first issues (executions ++ [number]) deliveries takings results :=
  { kept with
    executed := fun delivery member => List.mem_append_left _ (kept.executed delivery member) }

/-- What an execution delivers is held for each slot of its batch. -/
theorem delivered
    (kept : KeptResults first issues executions deliveries takings results)
    (fresh : number ∉ executions)
    {found : Results}
    {data : List Datum}
    {exchanges : List Exchange}
    (same : found.batch = first + number)
    (values : found.values = data.map some)
    (each :
      List.Forall₂ (fun request datum => request.Delivered exchanges datum)
        (askedOf issues number) data) :
    KeptResults first issues (executions ++ [number]) (deliveries ++ [(number, exchanges)])
      takings (results ++ [found]) where
  length_eq := by rw [List.length_append, List.length_append, kept.length_eq]; rfl
  taken taking member := by
    rw [List.length_append]
    exact ⟨(kept.taken taking member).1, Nat.lt_add_right 1 (kept.taken taking member).2⟩
  executed delivery member := by
    rcases List.mem_append.mp member with earlier | last
    · exact List.mem_append_left _ (kept.executed delivery earlier)
    · rw [List.mem_singleton.mp last]
      exact List.mem_append_right _ List.mem_cons_self
  once := by
    rw [List.map_append, List.nodup_append]
    refine ⟨kept.once, by simp, ?_⟩
    rintro source earlier _ last rfl
    obtain ⟨delivery, member, rfl⟩ := List.mem_map.mp earlier
    have same : delivery.1 = number := by simpa using last
    rw [← same] at fresh
    exact fresh (kept.executed delivery member)
  each place source others results' delivered named := by
    rcases getElem?_concat_cases delivered with earlier | ⟨rfl, new⟩
    · have inside := (List.getElem?_eq_some_iff.mp earlier).1
      rw [List.getElem?_append_left (kept.length_eq ▸ inside)] at named
      exact kept.each place source others results' earlier named
    · cases new
      rw [← kept.length_eq, List.getElem?_concat_length] at named
      cases named
      refine ⟨same, fun slot request standing => ?_⟩
      obtain ⟨asked, atRank⟩ := List.getElem?_eq_some_iff.mp (getElem?_askedOf_rank standing)
      obtain ⟨lengths, pairs⟩ := List.forall₂_iff_get.mp each
      have answered := pairs _ asked (lengths ▸ asked)
      rw [List.get_eq_getElem, atRank] at answered
      refine ⟨_, answered, ?_⟩
      have untaken : (slot, deliveries.length) ∉ takings := fun member =>
        Nat.lt_irrefl _ (kept.taken _ member).2
      rw [values, if_neg untaken, List.getElem?_map, List.getElem?_eq_getElem (lengths ▸ asked)]
      rfl

/-- A value that is taken out leaves the values of all other slots where they are. -/
theorem took
    (kept : KeptResults first issues executions deliveries takings results)
    {slot place : Nat}
    {request : Request}
    {found : Results}
    (standing : issues[slot]? = some (number, request))
    (named : results[place]? = some found) :
    KeptResults first issues executions deliveries (takings ++ [(slot, place)])
      (results.set place
        (found.take
          (Slot.mk (first + number) (rank issues number slot) : Slot request.type)).2) where
  length_eq := by rw [List.length_set, kept.length_eq]
  taken taking member := by
    rcases List.mem_append.mp member with earlier | last
    · exact kept.taken taking earlier
    · rw [List.mem_singleton.mp last, ← kept.length_eq]
      exact ⟨(List.getElem?_eq_some_iff.mp standing).1, (List.getElem?_eq_some_iff.mp named).1⟩
  executed := kept.executed
  once := kept.once
  each where' source exchanges other delivered stands := by
    rcases getElem?_set_cases stands with ⟨rfl, rfl⟩ | ⟨apart, stands⟩
    · obtain ⟨same, holds⟩ := kept.each where' source exchanges found delivered named
      rcases eq_or_ne number source with rfl | foreign
      · rw [Results.take, if_pos same.symm]
        exact ⟨same, holds.took standing⟩
      · have strange : first + number ≠ found.batch := by omega
        rw [Results.take, if_neg strange]
        refine ⟨same, holds.untouched fun slot' other stands same => foreign ?_⟩
        cases same
        rw [standing] at stands
        cases stands
        rfl
    · obtain ⟨same, holds⟩ := kept.each where' source exchanges other delivered stands
      exact ⟨same, holds.untouched fun _ _ _ same => apart (congrArg Prod.snd same)⟩

end KeptResults

/-- What is kept of a run in its state. -/
structure Kept {σ : Type} (first : Nat) (events : List Event) (state : State σ) : Prop where
  batches :
    KeptBatches first (issued events) (executed events) state.nextBatch state.batches
  slots : KeptSlots first (issued events) state.slots
  results :
    KeptResults first (issued events) (executed events) (delivered events) (taken events)
      state.results

section Records

variable {α : Type} {project : Event → Option α} {event : Event}

theorem filterMap_concat_of_none
    (events : List Event)
    (nothing : project event = none) :
    (events ++ [event]).filterMap project = events.filterMap project := by
  rw [List.filterMap_append, List.filterMap_cons_none nothing, List.filterMap_nil, List.append_nil]

theorem filterMap_concat_of_some
    (events : List Event)
    {entry : α}
    (entered : project event = some entry) :
    (events ++ [event]).filterMap project = events.filterMap project ++ [entry] := by
  rw [List.filterMap_append, List.filterMap_cons_some entered, List.filterMap_nil]

end Records

namespace Kept

variable {σ : Type} {ledger : Ledger σ} {parsers : List Revert.ErrorParser} {first : Nat}
  {events : List Event} {state next : State σ}

theorem start (first : Nat) (world : World σ) : Kept first [] (State.start first world) where
  batches := .start first
  slots := by constructor <;> simp [State.start, issued]
  results := by constructor <;> simp [State.start, issued, executed, delivered, taken]

/-- What is kept is told from what a further event enters into the record. -/
theorem enter
    {event : Event}
    {issues : List (Nat × Request)}
    {executions : List Nat}
    {deliveries : List (Nat × List Exchange)}
    {takings : List (Nat × Nat)}
    (issue : issued (events ++ [event]) = issues)
    (execution : executed (events ++ [event]) = executions)
    (delivery : delivered (events ++ [event]) = deliveries)
    (taking : taken (events ++ [event]) = takings)
    (batches : KeptBatches first issues executions next.nextBatch next.batches)
    (slots : KeptSlots first issues next.slots)
    (results : KeptResults first issues executions deliveries takings next.results) :
    Kept first (events ++ [event]) next := by
  subst issue execution delivery taking
  exact ⟨batches, slots, results⟩

theorem idle
    (kept : Kept first events state)
    {event : Event}
    (issue : event.issue? = none)
    (execution : event.execution? = none)
    (delivery : event.delivery? = none)
    (taking : event.taking? = none) :
    Kept first (events ++ [event]) state :=
  enter (filterMap_concat_of_none events issue) (filterMap_concat_of_none events execution)
    (filterMap_concat_of_none events delivery) (filterMap_concat_of_none events taking)
    kept.batches kept.slots kept.results

/-- Whatever is done next, what is kept is kept. -/
theorem move
    (kept : Kept first events state)
    {operation : Operation}
    {reply : Reply}
    (moves : Move ledger state operation reply next) :
    Kept first
      (events ++
        [⟨operation, reply, next.world.history.drop state.world.history.length⟩]) next := by
  obtain ⟨batches, slots, results⟩ := kept
  cases moves with
  | opened block =>
      exact enter (filterMap_concat_of_none events rfl) (filterMap_concat_of_none events rfl)
        (filterMap_concat_of_none events rfl) (filterMap_concat_of_none events rfl)
        (batches.opened block) slots results
  | unnamed =>
      apply idle ⟨batches, slots, results⟩ rfl <;> cases operation <;> rfl
  | refused _ number asked error asks =>
      apply idle ⟨batches, slots, results⟩ rfl <;> cases operation <;> first | rfl | cases asks
  | appended _ number batch request asks named isOpen =>
      have fresh := batches.not_executed named isOpen
      have slot := slots.appended number request
      rw [← (batches.each number batch named).requests_eq isOpen,
        ← (batches.each number batch named).id_eq] at slot
      refine enter (filterMap_concat_of_some events ?_) (filterMap_concat_of_none events ?_)
        (filterMap_concat_of_none events ?_) (filterMap_concat_of_none events ?_)
        (batches.appended named isOpen request) slot (results.appended fresh request)
      · simp [Event.issue?, asks, Except.toOption]
      all_goals cases operation <;> first | rfl | cases asks
  | repeated number maxCalls batch named closed =>
      exact enter (filterMap_concat_of_none events rfl) (filterMap_concat_of_some events rfl)
        (filterMap_concat_of_none events rfl) (filterMap_concat_of_none events rfl)
        (batches.repeated named closed) slots (results.executing number)
  | failed number maxCalls batch error world named isOpen =>
      exact enter (filterMap_concat_of_none events rfl) (filterMap_concat_of_some events rfl)
        (filterMap_concat_of_none events rfl) (filterMap_concat_of_none events rfl)
        (batches.spent named) slots (results.executing number)
  | delivered number maxCalls batch found data exchanges world named isOpen added same values
      each =>
      have own := batches.each number batch named
      rw [own.requests_eq isOpen] at each
      have fresh := batches.not_executed named isOpen
      have made : world.history.drop state.world.history.length = exchanges := by
        rw [added, List.drop_left]
      rw [made]
      exact enter (filterMap_concat_of_none events rfl) (filterMap_concat_of_some events rfl)
        (filterMap_concat_of_some events rfl) (filterMap_concat_of_none events rfl)
        (batches.spent named) slots
        (results.delivered fresh (same.trans own.id_eq) values each)
  | got slot place held found holds named => exact idle ⟨batches, slots, results⟩ rfl rfl rfl rfl
  | took slot place held found holds named =>
      have inside := (List.getElem?_eq_some_iff.mp holds).1
      rw [slots.length_eq] at inside
      have standing := List.getElem?_eq_getElem inside
      have same := slots.each slot _ _ standing
      rw [holds] at same
      cases same
      exact enter (filterMap_concat_of_none events rfl) (filterMap_concat_of_none events rfl)
        (filterMap_concat_of_none events rfl) (filterMap_concat_of_some events rfl)
        batches slots (results.took standing named)

/-- What a run has come to is kept. -/
theorem run (first : Nat) (world : World σ) (operations : List Operation) :
    Kept first (Reads.run ledger parsers (.start first world) operations).1
      (Reads.run ledger parsers (.start first world) operations).2 := by
  induction operations using List.reverseRecOn with
  | nil => exact .start first world
  | append_singleton past operation inductionHypothesis =>
      rw [Reads.run, List.foldl_append]
      exact inductionHypothesis.move (move_perform operation)

end Kept

end ContractGateway.Reads
