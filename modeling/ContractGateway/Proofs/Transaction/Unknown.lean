import ContractGateway.Proofs.Transaction.Deadline
import ContractGateway.Proofs.Transport.Wordings

/-!
# Polls that call the transaction unknown

A wait goes on behind a poll that settles nothing and does not fail for good, as long as its
deadline is ahead and it has polls left: `Watch.Course.rest_ne_nil`. A failed poll whose text can only
mean that the transaction is unknown is such a poll, unless it says so in the words "unknown
transaction". Those end the wait at once, with the last receipt that was kept.
-/

namespace ContractGateway

namespace Watch.Course

variable
  {config : ConfirmationConfig} {hash : Hash} {deadline fuel now : Nat} {watch : Watch}
  {polls before rest : List PollRecord} {poll : PollRecord} {outcome : Outcome}

theorem ne_nil
    (course : Course config hash deadline fuel now watch polls outcome)
    (left : 0 < fuel) :
    polls ≠ [] := by
  cases course with
  | exhausted => exact absurd left (Nat.lt_irrefl 0)
  | finished => simp
  | paused => simp

/--
Behind each of its polls, a course is at an end or makes a pause and goes on. Where there are polls
enough to reach the deadline at its beginning, there are at that poll.
-/
theorem exists_decision
    (course : Course config hash deadline fuel now watch (before ++ poll :: rest) outcome) :
    ∃ left present,
      fuel = before.length + (left + 1) ∧
        ((rest = [] ∧
            Decision config deadline poll.ended present poll.found (.finish outcome)) ∨
          ∃ wake next,
            Decision config deadline poll.ended present poll.found (.pause wake next) ∧
              Course config hash deadline left (max poll.ended wake) next rest outcome) ∧
        ((∀ earlier ∈ before, earlier.began ≤ earlier.ended) →
          deadline - now + config.pollInterval ≤ fuel * config.pollInterval →
            deadline - poll.began + config.pollInterval ≤ (left + 1) * config.pollInterval) := by
  generalize split : before ++ poll :: rest = polls at course
  induction course generalizing before with
  | exhausted now watch =>
      simp at split
  | finished fuel watch last outcome made decision =>
      cases before with
      | nil =>
          obtain ⟨rfl, rfl⟩ := List.cons.inj split
          exact ⟨fuel, watch, by simp, .inl ⟨rfl, decision⟩, fun _ enough => enough⟩
      | cons first before =>
          simp at split
  | paused fuel wake watch next first others outcome made decision course inductionHypothesis =>
      cases before with
      | nil =>
          obtain ⟨rfl, rfl⟩ := List.cons.inj split
          exact
            ⟨fuel, watch, by simp, .inr ⟨wake, next, decision, course⟩, fun _ enough => enough⟩
      | cons head before =>
          obtain ⟨rfl, tail⟩ := List.cons.inj split
          obtain ⟨left, present, counted, decided, keeps⟩ := inductionHypothesis tail
          refine ⟨left, present, by rw [counted, List.length_cons]; omega, decided, ?_⟩
          intro later enough
          obtain ⟨takesTime, others⟩ := List.forall_mem_cons.mp later
          exact keeps others (decision.enough (by omega))

/-- Nothing comes behind a poll that failed for good. -/
theorem rest_eq_nil
    (course : Course config hash deadline fuel now watch (before ++ poll :: rest) outcome)
    (fatal : poll.found.isFatal = true) :
    rest = [] := by
  obtain ⟨left, present, -, ⟨ends, -⟩ | ⟨wake, next, decision, -⟩, -⟩ := course.exists_decision
  · exact ends
  · generalize poll.found = found at decision fatal
    cases decision with
    | paused _ unsettled early harmless =>
        rw [harmless] at fatal
        cases fatal

/-- A poll that leaves its wait open has others behind it. -/
theorem rest_ne_nil
    (course : Course config hash deadline fuel now watch (before ++ poll :: rest) outcome)
    (unsettled : poll.found.settled? = none)
    (harmless : poll.found.isFatal = false)
    (early : poll.ended < deadline)
    (room : before.length + 1 < fuel) :
    rest ≠ [] := by
  obtain ⟨left, present, counted, ⟨-, decision⟩ | ⟨wake, next, -, goesOn⟩, -⟩ :=
    course.exists_decision
  · generalize poll.found = found at decision unsettled harmless
    cases decision with
    | settled outcome => cases unsettled
    | ended _ _ ending =>
        rcases ending with late | fatal
        · exact absurd early (Nat.not_lt.mpr late)
        · rw [harmless] at fatal
          cases fatal
  · exact goesOn.ne_nil (by omega)

/-- Where there are polls enough to reach the deadline, some are left as long as there is time. -/
theorem room_of_early
    (course : Course config hash deadline fuel now watch (before ++ poll :: rest) outcome)
    (enough : deadline - now + config.pollInterval ≤ fuel * config.pollInterval)
    (later : ∀ other ∈ before ++ poll :: rest, other.began ≤ other.ended)
    (early : poll.ended < deadline) :
    before.length + 1 < fuel := by
  obtain ⟨left, present, counted, -, keeps⟩ := course.exists_decision
  have ahead : poll.began ≤ poll.ended := later poll (by simp)
  have still := keeps (fun earlier member => later earlier (by simp [member])) enough
  -- What is left of the time does not fit into a single step of the pace.
  cases left with
  | zero => omega
  | succ left => omega

/-- A course that ends with a poll that settles nothing ends with the last receipt that was kept. -/
theorem unsettled_of_last
    (course : Course config hash deadline fuel now watch (before ++ [poll]) outcome)
    (unsettled : poll.found.settled? = none) :
    outcome = .unsettled (lastKept watch.seen (before ++ [poll])) := by
  rcases course.settled_or_open with ⟨others, last, receipt, same, -, settles, -⟩ | ⟨-, ends⟩
  · obtain rfl : poll = last := (List.cons.inj (List.append_inj' same rfl).2).1
    have made := course.made poll (by simp)
    exact absurd settles (made.not_settles unsettled receipt)
  · exact ends

end Watch.Course

/-- A poll that fails with such a text fails for good exactly when the text has it in these words. -/
theorem FailureKind.OnlyUnknown.isFatal_failed
    {cause : TransportError}
    (only : FailureKind.OnlyUnknown cause.message) :
    (Poll.failed cause).isFatal = Text.mentions cause.message "unknown transaction" := by
  rw [Poll.isFatal, only.ofError_eq, only.isTransient_ofMessage, Bool.not_not]

/--
A text that can only mean that a transaction is unknown is read as a transient failure exactly when
it does not mention an "unknown transaction". A poll that fails with such a text ends its wait when
the text does, with the last receipt that was kept. Otherwise the wait goes on to its deadline, in
steps of its poll interval or, without one, as long as it has polls left.
-/
theorem Client.await_unknownTransaction
    {σ : Type}
    (client : Client σ)
    (handle : Handle)
    (timeout : Nat)
    (world : World σ) :
    let interval := client.config.confirmation.pollInterval
    let wait := client.await handle timeout world
    (∀ text, FailureKind.OnlyUnknown text →
        (FailureKind.ofMessage text ≠ .alreadyKnown ∧
            (FailureKind.ofMessage text).isTransient = true ↔
          Text.mentions text "unknown transaction" = false)) ∧
      ∃ polls : List PollRecord,
        wait.2.history = world.history ++ polls.flatMap PollRecord.exchanges ∧
          (∀ poll ∈ polls, poll.Made client.config.confirmation handle.hash) ∧
          ∀ before poll rest cause,
            polls = before ++ poll :: rest →
              poll.found = .failed cause →
                FailureKind.OnlyUnknown cause.message →
                  (Text.mentions cause.message "unknown transaction" = true → rest = []) ∧
                    (Text.mentions cause.message "unknown transaction" = false →
                      1 ≤ interval ∨ before.length + 1 < client.pollLimit timeout →
                        rest ≠ [] ∨ world.now + timeout ≤ wait.2.now) ∧
                    (rest = [] → wait.1.outcome = .unsettled (lastKept none polls)) := by
  intro interval wait
  constructor
  · intro text only
    rw [only.isTransient_ofMessage, only.ofMessage_eq]
    cases Text.mentions text "unknown transaction" <;> simp
  · obtain ⟨exchanges, added, -, -, polls, rfl, course, -, -, inTime⟩ :=
      client.yields_await_in_time
        (client.pollsSteadily_always handle.hash (world.now + timeout)) trivial
    refine ⟨polls, added, course.made, ?_⟩
    rintro before poll rest cause rfl failed only
    have unsettled : poll.found.settled? = none := by rw [failed]; rfl
    have fatal : poll.found.isFatal = Text.mentions cause.message "unknown transaction" := by
      rw [failed, only.isFatal_failed]
    refine ⟨fun mentioned => course.rest_eq_nil (fatal.trans mentioned), ?_, ?_⟩
    · intro unmentioned room
      rcases Nat.lt_or_ge poll.ended (world.now + timeout) with early | late
      · refine .inl (course.rest_ne_nil unsettled (fatal.trans unmentioned) early ?_)
        rcases room with paced | room
        · refine course.room_of_early ?_ (fun other member => (inTime other member).1) early
          rw [Nat.add_sub_cancel_left]
          exact Client.pollLimit_enough paced timeout
        · exact room
      · exact .inr (Nat.le_trans late (inTime poll (by simp)).2)
    · rintro rfl
      exact course.unsettled_of_last unsettled

/-- A ledger whose first receipt query fails with a text, and every later one finds a receipt. -/
def forgetfulLedger (text : String) : Ledger Bool where
  defaultSender := none
  answer
    | .receipt _, _, false => (.error (.custom text), true)
    | .receipt hash, _, true => (.ok (some ⟨hash, 100, 21000, 1, true⟩), true)
    | _, _, state => (.error .backendGone, state)

/-- A wait goes on behind a poll that was told of a header that is not there. -/
theorem forgetfulLedger_goesOn :
    let client : Client Bool := { ledger := forgetfulLedger "Header not found", config := {} }
    let wait := client.await ⟨1, "write", none, none⟩ 5000 (World.start false)
    FailureKind.OnlyUnknown "Header not found" ∧
      wait.1.outcome = .confirmed ⟨1, 100, 21000, 1, true⟩ ∧
      ∃ poll rest,
        wait.2.history = (poll :: rest).flatMap PollRecord.exchanges ∧
          poll.found = .failed (.custom "Header not found") ∧
          rest ≠ [] := by
  intro client wait
  have only : FailureKind.OnlyUnknown "Header not found" := by decide +kernel
  have ends : wait.1.outcome = .confirmed ⟨1, 100, 21000, 1, true⟩ ∧ wait.2.now < 5000 := by
    decide +kernel
  have told :
      wait.2.history =
        [⟨0, .receipt 1, .error (.custom "Header not found")⟩,
          ⟨1000, .receipt 1, .ok (some ⟨1, 100, 21000, 1, true⟩)⟩] :=
    rfl
  obtain ⟨-, polls, added, made, fails⟩ :=
    client.await_unknownTransaction ⟨1, "write", none, none⟩ 5000 (World.start false)
  rw [told] at added
  refine ⟨only, ends.1, ?_⟩
  cases polls with
  | nil => cases added
  | cons poll rest =>
      have failed : poll.found = .failed (.custom "Header not found") := by
        obtain ⟨began, exchanges, found, ended⟩ := poll
        have first := made _ List.mem_cons_self
        change Poll.Made _ _ exchanges found at first
        -- Of all that a poll can be, only one without an answer begins with a failed query.
        cases first <;> simp_all [World.start, World.history]
      obtain ⟨-, goesOn, -⟩ := fails [] poll rest _ rfl failed only
      rcases goesOn (by decide +kernel) (.inl (by decide)) with others | late
      · exact ⟨poll, rest, told.trans added, failed, others⟩
      · exact absurd late (Nat.not_le.mpr ends.2)

/-- A wait is given up at once over a transaction that is unknown at first. -/
theorem forgetfulLedger_givesUp :
    let client : Client Bool := { ledger := forgetfulLedger "unknown transaction", config := {} }
    let wait := client.await ⟨1, "write", none, none⟩ 5000 (World.start false)
    FailureKind.OnlyUnknown "unknown transaction" ∧
      FailureKind.ofMessage "unknown transaction" = .alreadyKnown ∧
      wait.1.outcome = .timedOut ∧
      wait.2.now = 0 := by
  decide +kernel

end ContractGateway
