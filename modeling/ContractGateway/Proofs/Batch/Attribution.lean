import ContractGateway.Proofs.Batch.Traffic
import ContractGateway.Proofs.Results
import Mathlib.Data.List.Induction

/-!
# Whom a failed round trip is blamed on

A batch fails as a whole when the newest block is not to be had, when a round trip fails, and when
a round trip brings a wrong number of results. The error then has no index, and its label is the
one of a request that is really concerned: `Batch.execute_blames` says that it is the first request
whose call travelled in the failed round trip, whichever requests share calls and whatever the
earlier round trips brought.
-/

namespace ContractGateway

/-- The distinct items of a list stand in the order of their first places. -/
theorem pairwise_idxOf_eraseDups
    {α : Type}
    [DecidableEq α]
    (taken : List α) :
    taken.eraseDups.Pairwise fun earlier later => taken.idxOf earlier < taken.idxOf later := by
  induction taken using List.reverseRecOn with
  | nil =>
      simp
  | append_singleton taken item inductionHypothesis =>
      have kept {known : α} (member : known ∈ taken.eraseDups) :
          (taken ++ [item]).idxOf known = taken.idxOf known := by
        rw [List.idxOf_append, if_pos (List.mem_eraseDups.mp member)]
      rw [eraseDups_append_singleton, List.pairwise_append]
      refine ⟨?_, ?_, ?_⟩
      · apply inductionHypothesis.imp_of_mem
        intro earlier later earlierMember laterMember before
        rw [kept earlierMember, kept laterMember]
        exact before
      · split <;> simp
      · intro earlier earlierMember later laterMember
        split at laterMember
        · cases laterMember
        · rename_i unknown
          obtain rfl := List.mem_singleton.mp laterMember
          rw [kept earlierMember, List.idxOf_append, if_neg unknown]
          have inside := List.idxOf_lt_length_of_mem (List.mem_eraseDups.mp earlierMember)
          omega

/-- An item has its first place no later than any other one. -/
theorem idxOf_getElem_le
    {α : Type}
    [DecidableEq α]
    (taken : List α)
    (place : Nat)
    (inside : place < taken.length) :
    taken.idxOf taken[place] ≤ place := by
  by_contra later
  have other := List.not_of_lt_findIdx (Nat.lt_of_not_le later)
  simp at other

namespace Exchange

/-- The calls that a round trip carried. -/
def carried : Exchange → List ReadCall
  | ⟨_, .aggregate calls _, _⟩ => calls
  | _ => []

/-- Why the round trip of a number ended its batch, if it did. -/
def failure? (number : Nat) : Exchange → Option BatchFailure
  | ⟨_, .aggregate _ _, .error cause⟩ => some (.roundTrip number cause)
  | ⟨_, .aggregate calls _, .ok outcomes⟩ =>
      if outcomes.length = calls.length then none
      else some (.resultCount number outcomes.length calls.length)
  | _ => none

/-- A round trip that was served did not end its batch. -/
theorem failure?_of_isServed
    {trip : Exchange}
    (served : trip.isServed = true)
    (number : Nat) :
    trip.failure? number = none := by
  obtain ⟨time, call, answer⟩ := trip
  cases call with
  | aggregate calls block =>
      cases answer with
      | error cause => cases served
      | ok outcomes =>
          have asMany : outcomes.length = calls.length := of_decide_eq_true served
          exact if_pos asMany
  | _ => cases served

end Exchange

namespace Batch

/-- What becomes of a batch whose round trips, from one number on, were these. -/
structure Verdict
    (label : Nat → String)
    (number : Nat)
    (trips : List Exchange)
    (answer : Except GatewayError (List CallOutcome)) : Prop where
  failed :
    ∀ (place : Nat) (trip : Exchange) (cause : BatchFailure),
      trips[place]? = some trip →
      trip.failure? (number + place) = some cause →
      answer = .error (.batch none (label (number + place)) cause)
  served : (∀ trip ∈ trips, trip.isServed = true) → ∃ outcomes, answer = .ok outcomes

namespace Verdict

variable {label : Nat → String} {number : Nat} {piece : List ReadCall} {block time : Nat}

theorem nothing : Verdict label number [] (.ok []) := ⟨by simp, fun _ => ⟨[], rfl⟩⟩

/-- The first round trip that is not served decides the error. -/
theorem stop
    {reply : Except TransportError (List CallOutcome)}
    {cause : BatchFailure}
    (fails : Exchange.failure? number ⟨time, .aggregate piece block, reply⟩ = some cause) :
    Verdict label number [⟨time, .aggregate piece block, reply⟩]
      (.error (.batch none (label number) cause)) where
  failed place trip other found blamed := by
    obtain ⟨rfl, rfl⟩ : place = 0 ∧ _ = trip := by
      simpa [List.getElem?_singleton] using found
    rw [Nat.add_zero] at blamed ⊢
    rw [Option.some.inj (fails.symm.trans blamed)]
  served served := by
    rw [Exchange.failure?_of_isServed (served _ List.mem_cons_self)] at fails
    cases fails

/-- A round trip that is served leaves the verdict to the others. -/
theorem next
    {outcomes : List CallOutcome}
    {trips : List Exchange}
    {answer : Except GatewayError (List CallOutcome)}
    (served : Exchange.isServed ⟨time, .aggregate piece block, .ok outcomes⟩ = true)
    (verdict : Verdict label (number + 1) trips answer) :
    Verdict label number (⟨time, .aggregate piece block, .ok outcomes⟩ :: trips)
      (answer.map (outcomes ++ ·)) where
  failed place trip cause found blamed := by
    cases place with
    | zero =>
        obtain rfl := Option.some.inj found
        rw [Exchange.failure?_of_isServed served] at blamed
        cases blamed
    | succ place =>
        rw [← Nat.add_assoc, Nat.add_right_comm] at blamed ⊢
        rw [verdict.failed place trip cause found blamed]
        rfl
  served allServed := by
    obtain ⟨more, rfl⟩ := verdict.served (List.forall_mem_cons.mp allServed).2
    exact ⟨outcomes ++ more, rfl⟩

end Verdict

section Execution

variable {σ : Type} (ledger : Ledger σ) (parsers : List Revert.ErrorParser)

/-- Round trips end with the verdict on them. -/
theorem yields_travel_verdict
    (label : Nat → String)
    (block number : Nat)
    (pieces : List (List ReadCall))
    (world : World σ) :
    Process.Yields (travel ledger label block number pieces) world fun trips answer _ =>
      Verdict label number trips answer := by
  induction pieces generalizing number world with
  | nil =>
      exact .pure .nothing
  | cons piece rest inductionHypothesis =>
      apply (Process.Yields.ask ledger (.aggregate piece block) world).bind
      rintro asked answer middle ⟨rfl, -, -⟩
      cases answer with
      | error cause =>
          exact .pure (.stop rfl)
      | ok outcomes =>
          by_cases asMany : outcomes.length = piece.length
          · simp only [asMany, if_true]
            apply (inductionHypothesis (number + 1) middle).bind
            intro trips more final verdict
            have onwards :
                Verdict label number
                  (⟨world.now, .aggregate piece block, .ok outcomes⟩ :: trips)
                  (more.map (outcomes ++ ·)) :=
              verdict.next (decide_eq_true asMany)
            cases more <;> exact .pure (by simpa [Except.map] using onwards)
          · simp only [asMany, if_false]
            exact .pure (.stop (if_neg asMany))

/-- A head that is not to be had is blamed on the request that the batch is pinned for. -/
theorem yields_pin_verdict
    (label : String)
    (block : BlockRef)
    (world : World σ) :
    Process.Yields (pin ledger label block) world fun exchanges answer _ =>
      ∀ time cause,
        exchanges = [⟨time, .blockNumber, .error cause⟩] →
        answer = .error (.batch none label (.headUnavailable cause)) := by
  cases block with
  | number block =>
      exact .pure (by simp)
  | latest =>
      apply (Process.Yields.ask ledger .blockNumber world).bind
      rintro asked answer middle ⟨rfl, -, -⟩
      cases answer with
      | error cause =>
          apply Process.Yields.pure
          rintro time other same
          cases same
          rfl
      | ok block =>
          apply Process.Yields.pure
          rintro time cause same
          cases same

/-- What is evaluated from outcomes has its values or an error with an index. -/
theorem evaluateFrom_ne_whole
    (outcome : Nat → CallOutcome)
    (index : Nat)
    (requests : List Request)
    (label : String)
    (cause : BatchFailure) :
    evaluateFrom parsers outcome index requests ≠ .error (.batch none label cause) := by
  induction requests generalizing index with
  | nil =>
      rintro ⟨⟩
  | cons request rest inductionHypothesis =>
      intro fails
      rcases Results.error_of_bind fails with here | ⟨value, -, behind⟩
      · unfold evaluate at here
        split at here
        · cases here
        · split at here <;> cases here
      · rcases Results.error_of_bind behind with later | ⟨values, -, done⟩
        · exact inductionHypothesis (index + 1) later
        · cases done

end Execution

section Places

variable (requests : List Request)

/-- A call of a round trip has its first place no earlier than the first call of the trip. -/
theorem idxOf_le_of_mem_roundTrip
    {maxCalls number : Nat}
    {piece : List ReadCall}
    (travels : (roundTrips maxCalls (physicalCalls requests))[number]? = some piece) :
    ∃ first,
      (physicalCalls requests)[number * max maxCalls 1]? = some first ∧
        first ∈ piece ∧
        ∀ call ∈ piece,
          (requests.map Request.call).idxOf first ≤ (requests.map Request.call).idxOf call := by
  have positive : 0 < max maxCalls 1 := by omega
  have ordered := pairwise_idxOf_eraseDups (requests.map Request.call)
  rw [← physicalCalls_eq] at ordered
  obtain ⟨inside, same⟩ := List.getElem?_eq_some_iff.mp travels
  rw [(cut_roundTrips maxCalls _).length_eq] at inside
  have started := (lt_pieces_iff positive number _).mp inside
  have shape :
      piece =
        (physicalCalls requests)[number * max maxCalls 1] ::
          ((physicalCalls requests).drop (number * max maxCalls 1 + 1)).take
            (max maxCalls 1 - 1) := by
    rw [← same]
    simp only [roundTrips, List.getElem_map, List.getElem_range]
    rw [List.drop_eq_getElem_cons started, List.take_cons positive]
  refine ⟨_, List.getElem?_eq_getElem started, by rw [shape]; exact List.mem_cons_self, ?_⟩
  intro call member
  rw [shape] at member
  rcases List.mem_cons.mp member with rfl | later
  · exact Nat.le_refl _
  · -- What stands behind the first call of the trip has its first place behind it, too.
    have behind := ordered.drop (i := number * max maxCalls 1)
    rw [List.drop_eq_getElem_cons started, List.pairwise_cons] at behind
    exact Nat.le_of_lt (behind.1 call (List.mem_of_mem_take later))

/-- The label of a round trip is that of the first request whose call travels in it. -/
theorem find?_of_roundTrip
    {maxCalls number : Nat}
    {piece : List ReadCall}
    (travels : (roundTrips maxCalls (physicalCalls requests))[number]? = some piece) :
    ∃ request,
      requests.find? (fun request => request.call ∈ piece) = some request ∧
        roundTripLabel maxCalls (Sharing.ofRequests requests) requests number = request.label := by
  obtain ⟨first, standing, carried, least⟩ := idxOf_le_of_mem_roundTrip requests travels
  have asked : first ∈ requests.map Request.call := by
    rw [← List.mem_eraseDups, ← physicalCalls_eq]
    exact List.mem_of_getElem? standing
  have inside := List.idxOf_lt_length_of_mem asked
  have placed : (requests.map Request.call).idxOf first < requests.length := by
    rwa [List.length_map] at inside
  have own : requests[(requests.map Request.call).idxOf first].call = first := by
    have found := List.getElem_idxOf inside
    rwa [List.getElem_map] at found
  refine ⟨requests[(requests.map Request.call).idxOf first], ?_, ?_⟩
  · rw [List.find?_eq_some_iff_getElem]
    refine ⟨by simpa [own] using carried, _, placed, rfl, ?_⟩
    intro earlier before
    simp only [Bool.not_eq_true', decide_eq_false_iff_not]
    intro member
    have place :=
      idxOf_getElem_le (requests.map Request.call) earlier (Nat.lt_trans before inside)
    rw [List.getElem_map] at place
    have notBefore := least _ member
    omega
  · rw [roundTripLabel, Sharing.owner?, (Sharing.ordered_ofRequests requests).owners_eq,
      List.getElem?_map, ← physicalCalls_eq, standing]
    simp only [Option.map_some, Option.bind_some, List.getElem?_eq_getElem placed,
      Option.getD_some]

end Places

/-- A round trip that was made carried the piece of its own number. -/
theorem Travelled.getElem?_carried
    {block number : Nat}
    {pieces : List (List ReadCall)}
    {trips : List Exchange}
    {trip : Exchange}
    (travelled : Travelled block pieces trips)
    (made : trips[number]? = some trip) :
    pieces[number]? = some trip.carried := by
  have calls := congrArg (·[number]?) travelled.calls_eq
  simp only [List.getElem?_map, made, Option.map_some] at calls
  obtain ⟨piece, standing, call⟩ := Option.map_eq_some_iff.mp calls.symm
  obtain ⟨time, _, answer⟩ := trip
  obtain rfl := call
  rw [List.getElem?_take] at standing
  split at standing
  · exact standing
  · cases standing

/-- What a batch with these requests comes to after what it asked of the ledger. -/
structure Blames
    (requests : List Request)
    (pinning trips : List Exchange)
    (answer : Except GatewayError Results) : Prop where
  /-- Without a newest block the first request is named. -/
  headless :
    ∀ (time : Nat) (cause : TransportError),
      pinning = [⟨time, .blockNumber, .error cause⟩] →
      ∃ request,
        requests.head? = some request ∧
          answer = .error (.batch none request.label (.headUnavailable cause))
  /-- After a round trip that is not served, the first request that had a call in it is named. -/
  failed :
    ∀ (number : Nat) (trip : Exchange) (cause : BatchFailure),
      trips[number]? = some trip →
      trip.failure? number = some cause →
      ∃ request,
        requests.find? (fun request => request.call ∈ trip.carried) = some request ∧
          answer = .error (.batch none request.label cause)
  /-- In no other case is the whole batch to blame. -/
  served :
    (∀ exchange ∈ pinning, exchange.answer.isOk = true) →
      (∀ trip ∈ trips, trip.isServed = true) →
        ∀ (label : String) (cause : BatchFailure), answer ≠ .error (.batch none label cause)

section Execution

variable {σ : Type} (ledger : Ledger σ) (parsers : List Revert.ErrorParser)

/-- The evaluation of an open batch with requests comes to what they are to blame for. -/
theorem yields_evaluateAll_blames
    (maxCalls : Nat)
    (batch : Batch)
    {first : Request}
    {rest : List Request}
    (shape : batch.requests = first :: rest)
    (world : World σ) :
    Process.Yields (evaluateAll ledger parsers maxCalls batch first) world fun exchanges answer _ =>
      ∃ pinning found trips,
        exchanges = pinning ++ trips ∧
          Pinned batch.block pinning found ∧
          (found = none → trips = []) ∧
          (∀ block, found = some block →
            Travelled block (roundTrips maxCalls (physicalCalls batch.requests)) trips) ∧
          Blames batch.requests pinning trips answer := by
  apply ((yields_pin ledger first.label batch.block world).and
    (yields_pin_verdict ledger first.label batch.block world)).bind
  rintro pinning answer middle ⟨pinned, headless⟩
  cases answer with
  | error error =>
      refine .pure ⟨pinning, none, [], rfl, pinned, fun _ => rfl, by simp, ?_, by simp, ?_⟩
      · intro time cause same
        exact ⟨first, by rw [shape]; rfl, congrArg _ (Except.error.inj (headless time cause same))⟩
      · intro available
        generalize batch.block = reference at pinned
        cases pinned with
        | unavailable time cause => cases available _ List.mem_cons_self
  | ok block =>
      have notHeadless (time : Nat) (cause : TransportError) :
          pinning ≠ [⟨time, .blockNumber, .error cause⟩] := by
        intro same
        cases headless time cause same
      apply ((yields_travel ledger _ block 0 _ middle).and
        (yields_travel_verdict ledger _ block 0 _ middle)).bind
      rintro trips more final ⟨travelled, verdict⟩
      have found (other : Nat) (same : some block = some other) :
          Travelled other (roundTrips maxCalls (physicalCalls batch.requests)) trips :=
        Option.some.inj same ▸ travelled
      cases more with
      | error error =>
          refine .pure ⟨pinning, some block, trips, by simp, pinned, by simp, found,
            fun time cause same => (notHeadless time cause same).elim, ?_, ?_⟩
          · intro number trip cause made fails
            obtain ⟨request, least, label⟩ :=
              find?_of_roundTrip batch.requests (travelled.getElem?_carried made)
            have decided := verdict.failed number trip cause made (by rwa [Nat.zero_add])
            rw [Nat.zero_add, label] at decided
            exact ⟨request, least, congrArg _ (Except.error.inj decided)⟩
          · intro _ served
            obtain ⟨outcomes, ended⟩ := verdict.served served
            cases ended
      | ok outcomes =>
          refine .pure ⟨pinning, some block, trips, by simp, pinned, by simp, found,
            fun time cause same => (notHeadless time cause same).elim, ?_, ?_⟩
          · intro number trip cause made fails
            cases verdict.failed number trip cause made (by rwa [Nat.zero_add])
          · intro _ _ label cause whole
            exact evaluateFrom_ne_whole _ _ _ _ label cause (Results.error_of_map whole)

end Execution

/--
When a batch fails as a whole, and whom the error names. If the newest block is not to be had, it is
the first request. If a round trip fails or brings another number of results than it has calls, it
is the first request whose call travelled in that round trip, whatever the round trips before it
brought. In no other case does the error of a batch have no index.
-/
theorem execute_blames
    {σ : Type}
    (ledger : Ledger σ)
    (parsers : List Revert.ErrorParser)
    (maxCalls : Nat)
    (batch : Batch)
    (isOpen : batch.closed = false)
    (nonempty : batch.requests ≠ [])
    (world : World σ) :
    ∃ pinning found trips pieces,
      (batch.execute ledger parsers maxCalls world).2.history =
          world.history ++ (pinning ++ trips) ∧
        Pinned batch.block pinning found ∧
        Cut (max maxCalls 1) (batch.requests.map Request.call).eraseDups pieces ∧
        (found = none → trips = []) ∧
        (∀ block, found = some block → Travelled block pieces trips) ∧
        Blames batch.requests pinning trips (batch.execute ledger parsers maxCalls world).1.1 := by
  obtain ⟨first, rest, shape⟩ := List.exists_cons_of_ne_nil nonempty
  obtain ⟨_, added, pinning, found, trips, rfl, pinned, unpinned, travelled, blames⟩ :=
    yields_evaluateAll_blames ledger parsers maxCalls batch shape world
  refine ⟨pinning, found, trips, roundTrips maxCalls (physicalCalls batch.requests), ?_, pinned,
    ?_, unpinned, travelled, ?_⟩
  · rw [snd_execute_of_open ledger parsers maxCalls isOpen shape, added]
  · rw [← physicalCalls_eq]
    exact cut_roundTrips maxCalls (physicalCalls batch.requests)
  · rw [fst_execute_of_open ledger maxCalls isOpen shape]
    exact blames

/-- A ledger whose calls all revert, and that brings no result when a certain call travels. -/
def stumbling : Ledger Unit where
  defaultSender := none
  answer
    | .blockNumber, _, state => (.ok 9, state)
    | .aggregate calls _, _, state =>
        (.ok (if ⟨0, [2]⟩ ∈ calls then [] else calls.map fun _ => .failure []), state)
    | _, _, state => (.error .backendGone, state)

/-- Five reads of two calls, of which the third read is the first that needs the second call. -/
def stumbled : Batch where
  id := 1
  block := .latest
  requests :=
    [⟨0, "first", [1], .bytes, .ok⟩, ⟨0, "second", [1], .bytes, .ok⟩,
      ⟨0, "third", [2], .bytes, .ok⟩, ⟨0, "fourth", [1], .bytes, .ok⟩,
      ⟨0, "fifth", [2], .bytes, .ok⟩]

/-- The second round trip fails, and the first read of its call is named. -/
theorem execute_blames_third :
    stumbled.closed = false ∧
      stumbled.requests ≠ [] ∧
      (stumbled.execute stumbling [] 0 (.start ())).1.1 =
        .error (.batch none "third" (.resultCount 1 0 1)) := by
  have nonempty : stumbled.requests ≠ [] := by
    simp [stumbled]
  refine ⟨rfl, nonempty, ?_⟩
  obtain ⟨pinning, found, trips, pieces, added, pinned, -, -, -, blames⟩ :=
    execute_blames stumbling [] 0 stumbled rfl nonempty (.start ())
  have history :
      (stumbled.execute stumbling [] 0 (.start ())).2.history =
        [⟨0, .blockNumber, .ok 9⟩, ⟨0, .aggregate [⟨0, [1]⟩] 9, .ok [.failure []]⟩,
          ⟨0, .aggregate [⟨0, [2]⟩] 9, .ok []⟩] :=
    rfl
  rw [history] at added
  cases pinned with
  | unavailable time cause => cases added
  | found time block =>
      obtain rfl := (List.cons.inj added).2
      obtain ⟨request, least, answer⟩ := blames.failed 1 _ (.resultCount 1 0 1) rfl rfl
      obtain rfl := Option.some.inj least
      exact answer

end Batch

end ContractGateway
