import ContractGateway.Batch

/-!
# The calls that requests share

While a batch takes its requests in, `Sharing` keeps two maps in step: the place of each request's
call, and the place of each call seen so far. `Sharing.Tracks` says what the maps mean for the
calls taken in, and `Sharing.tracks_ofRequests` that they mean it for every list of requests,
whichever of them ask for the same call.
-/

namespace ContractGateway

namespace Sharing

/-- The maps are right about the calls taken in so far, one of each request. -/
structure Tracks (sharing : Sharing) (taken : List ReadCall) : Prop where
  length_places : sharing.places.length = taken.length
  /-- A call is seen exactly at the place where it stands. -/
  lookup_seen_eq_some_iff :
    ∀ (call : ReadCall) (place : Nat),
      sharing.seen.lookup call = some place ↔ sharing.calls[place]? = some call
  /-- The place of a request leads to its own call. -/
  call_at_place :
    ∀ (index : Nat) (call : ReadCall),
      taken[index]? = some call →
      ∃ place,
        sharing.places[index]? = some place ∧ sharing.calls[place]? = some call

/-- Places that lead to the calls of requests still do with one more of each at the end. -/
private theorem call_at_place_append
    {calls taken : List ReadCall}
    {places : List Nat}
    {call : ReadCall}
    {place : Nat}
    (sameLength : places.length = taken.length)
    (leads :
      ∀ (index : Nat) (call : ReadCall),
        taken[index]? = some call →
        ∃ place, places[index]? = some place ∧ calls[place]? = some call)
    (standing : calls[place]? = some call)
    (index : Nat)
    (other : ReadCall)
    (found : (taken ++ [call])[index]? = some other) :
    ∃ place', (places ++ [place])[index]? = some place' ∧ calls[place']? = some other := by
  rcases Nat.lt_or_ge index taken.length with earlier | last
  · rw [List.getElem?_append_left earlier] at found
    rw [List.getElem?_append_left (by rw [sameLength]; exact earlier)]
    exact leads index other found
  · rw [List.getElem?_append_right last] at found
    rw [List.getElem?_append_right (by rw [sameLength]; exact last), sameLength]
    obtain ⟨isLast, rfl⟩ : index - taken.length = 0 ∧ call = other := by
      simpa [List.getElem?_singleton] using found
    exact ⟨place, by simp [isLast], standing⟩

namespace Tracks

theorem empty : Tracks {} [] where
  length_places := rfl
  lookup_seen_eq_some_iff := by simp
  call_at_place := by simp

variable {sharing : Sharing} {taken : List ReadCall}

theorem add_seen
    {call : ReadCall}
    {place : Nat}
    (tracks : Tracks sharing taken)
    (seen : sharing.seen.lookup call = some place) :
    Tracks { sharing with places := sharing.places ++ [place] } (taken ++ [call]) where
  length_places := by simp [tracks.length_places]
  lookup_seen_eq_some_iff := tracks.lookup_seen_eq_some_iff
  call_at_place :=
    call_at_place_append tracks.length_places tracks.call_at_place
      ((tracks.lookup_seen_eq_some_iff call place).mp seen)

/-- A call that was not seen before gets a place of its own behind all others. -/
theorem add_unseen
    {call : ReadCall}
    (tracks : Tracks sharing taken)
    (unseen : sharing.seen.lookup call = none)
    (owners : List Nat) :
    Tracks
      { calls := sharing.calls ++ [call]
        owners := owners
        places := sharing.places ++ [sharing.calls.length]
        seen := (call, sharing.calls.length) :: sharing.seen }
      (taken ++ [call]) where
  length_places := by simp [tracks.length_places]
  lookup_seen_eq_some_iff other place := by
    have absent : ∀ earlier : Nat, sharing.calls[earlier]? ≠ some call := by
      intro earlier standing
      rw [← tracks.lookup_seen_eq_some_iff, unseen] at standing
      cases standing
    have known := tracks.lookup_seen_eq_some_iff other place
    by_cases same : other = call
    · subst same
      simp only [List.lookup_cons_self, Option.some.injEq]
      constructor
      · rintro rfl
        simp
      · intro standing
        rcases Nat.lt_or_ge place sharing.calls.length with earlier | later
        · rw [List.getElem?_append_left earlier] at standing
          exact (absent place standing).elim
        · rw [List.getElem?_append_right later] at standing
          have inside := (List.getElem?_eq_some_iff.mp standing).1
          simp only [List.length_singleton] at inside
          omega
    · have apart : (other == call) = false := by simpa using same
      simp only [List.lookup_cons, apart]
      rw [known]
      grind
  call_at_place := by
    apply call_at_place_append tracks.length_places
    · intro index other found
      obtain ⟨place, leads, standing⟩ := tracks.call_at_place index other found
      have inside := (List.getElem?_eq_some_iff.mp standing).1
      exact ⟨place, leads, by rw [List.getElem?_append_left inside]; exact standing⟩
    · simp

/-- Taking in one more call keeps the maps right. -/
theorem add
    (tracks : Tracks sharing taken)
    (call : ReadCall) :
    Tracks (sharing.add call) (taken ++ [call]) := by
  unfold Sharing.add
  cases seen : sharing.seen.lookup call with
  | some place =>
      exact tracks.add_seen seen
  | none =>
      exact tracks.add_unseen seen _

theorem foldl_add
    (tracks : Tracks sharing taken)
    (requests : List Request) :
    Tracks
      (requests.foldl (fun sharing request => sharing.add request.call) sharing)
      (taken ++ requests.map Request.call) := by
  induction requests generalizing sharing taken with
  | nil =>
      simpa using tracks
  | cons request rest inductionHypothesis =>
      simpa using inductionHypothesis (tracks.add request.call)

end Tracks

/-- The maps of a batch are right about its requests. -/
theorem tracks_ofRequests (requests : List Request) :
    Tracks (ofRequests requests) (requests.map Request.call) := by
  simpa [ofRequests] using Tracks.empty.foldl_add requests

/--
When every call was answered by one function, the request at an index gets what that function
says of its own call.
-/
theorem outcome?_ofRequests
    {requests : List Request}
    {index : Nat}
    {request : Request}
    (found : requests[index]? = some request)
    (answers : ReadCall → CallOutcome) :
    (ofRequests requests).outcome? ((ofRequests requests).calls.map answers) index =
      some (answers request.call) := by
  have taken : (requests.map Request.call)[index]? = some request.call := by
    simp [found]
  obtain ⟨place, leads, standing⟩ :=
    (tracks_ofRequests requests).call_at_place index request.call taken
  simp [outcome?, leads, standing]

end Sharing

end ContractGateway
