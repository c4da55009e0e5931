import ContractGateway.Proofs.Transaction.Submission
import ContractGateway.Transaction.Confirmation

/-!
# What a wait exchanges

A poll makes one or two calls, and `Poll.Made` lists what they are answered with and what the poll
finds. A wait is a row of polls: `Watch.Course` follows the decisions between them, with the time
at which each poll begins and ends, and `Client.yields_await` says that every wait runs such a
course, whatever the ledger answers. What is known of each poll is known of all polls in the
course: `Client.PollsSteadily` is what there is to show for that, one poll at a time.

What a wait comes to is then an induction over its course, without a ledger or a world in sight.
-/

namespace ContractGateway

namespace Poll

/-- The outcome that a poll settles on. -/
def settled? : Poll → Option Outcome
  | .settled outcome => some outcome
  | _ => none

/-- The poll failed in a way that repeating it does not help. -/
def isFatal : Poll → Bool
  | .failed cause => !(FailureKind.ofError cause).isTransient
  | _ => false

end Poll

namespace Watch

/-- What a wait remembers after a poll that settled nothing. -/
def after (watch : Watch) : Poll → Watch
  | .settled _ => watch
  | .included receipt => ⟨some receipt, 0⟩
  | .absent => ⟨watch.seen, 0⟩
  | .failed _ => ⟨watch.seen, watch.failures + 1⟩

/-- The decisions after a poll, and the reasons for them. -/
inductive Decision
    (config : ConfirmationConfig)
    (deadline now : Nat)
    (watch : Watch) : Poll → WatchStep → Prop where
  /-- The poll settles the wait. -/
  | settled (outcome : Outcome) :
      Decision config deadline now watch (.settled outcome) (.finish outcome)
  /-- The wait ends with what it remembers, at its deadline or on a fatal failure. -/
  | ended
      (found : Poll)
      (unsettled : found.settled? = none)
      (ending : deadline ≤ now ∨ found.isFatal = true) :
      Decision config deadline now watch found (.finish (.unsettled (watch.after found).seen))
  /-- The wait goes on after a pause that ends at the deadline at the latest. -/
  | paused
      (found : Poll)
      (unsettled : found.settled? = none)
      (early : now < deadline)
      (harmless : found.isFatal = false) :
      Decision config deadline now watch found
        (.pause (now + min ((watch.after found).interval config) (deadline - now))
          (watch.after found))

/-- After a poll that is neither settled nor fatal, the time decides. -/
theorem decision_proceed
    (config : ConfirmationConfig)
    (deadline now : Nat)
    (watch : Watch)
    {found : Poll}
    (unsettled : found.settled? = none)
    (harmless : found.isFatal = false) :
    Decision config deadline now watch found
      (proceed config deadline now (watch.after found)) := by
  rw [proceed]
  by_cases late : deadline ≤ now
  · rw [if_pos late]
    exact .ended found unsettled (.inl late)
  · rw [if_neg late]
    exact .paused found unsettled (Nat.lt_of_not_le late) harmless

/-- Every decision is one of these. -/
theorem decision_decide
    (config : ConfirmationConfig)
    (deadline now : Nat)
    (watch : Watch)
    (found : Poll) :
    Decision config deadline now watch found (watch.decide config deadline now found) := by
  cases found with
  | settled outcome =>
      exact .settled outcome
  | included receipt =>
      exact decision_proceed config deadline now watch rfl rfl
  | absent =>
      exact decision_proceed config deadline now watch rfl rfl
  | failed cause =>
      rw [decide]
      cases transient : (FailureKind.ofError cause).isTransient with
      | true =>
          rw [if_pos rfl]
          exact decision_proceed config deadline now watch rfl (by simp [Poll.isFatal, transient])
      | false =>
          rw [if_neg Bool.false_ne_true]
          exact .ended (.failed cause) rfl (.inr (by simp [Poll.isFatal, transient]))

/-- No pause goes beyond the deadline. -/
theorem Decision.wake_le
    {config : ConfirmationConfig}
    {deadline now wake : Nat}
    {watch next : Watch}
    {found : Poll}
    (decision : Decision config deadline now watch found (.pause wake next)) :
    wake ≤ deadline := by
  cases decision
  omega

end Watch

/-- What the calls of a poll are answered with, and what the poll finds. -/
inductive Poll.Made (required : Nat) (hash : Hash) : List Exchange → Poll → Prop where
  /-- The receipt could not be looked up. -/
  | unanswered
      (time : Nat)
      (cause : TransportError) :
      Made required hash [⟨time, .receipt hash, .error cause⟩] (.failed cause)
  /-- There is no receipt. -/
  | absent (time : Nat) :
      Made required hash [⟨time, .receipt hash, .ok none⟩] .absent
  /-- The receipt settles the poll by itself. -/
  | settled
      (time : Nat)
      (receipt : Receipt)
      (found : Poll)
      (settles : Poll.ofReceipt required receipt = some found) :
      Made required hash [⟨time, .receipt hash, .ok (some receipt)⟩] found
  /-- The newest block behind a receipt could not be looked up. -/
  | headless
      (time later : Nat)
      (receipt : Receipt)
      (cause : TransportError)
      (unsettled : Poll.ofReceipt required receipt = none) :
      Made required hash
        [⟨time, .receipt hash, .ok (some receipt)⟩, ⟨later, .blockNumber, .error cause⟩]
        (.failed cause)
  /-- The newest block decides on the receipt. -/
  | measured
      (time later : Nat)
      (receipt : Receipt)
      (head : Nat)
      (unsettled : Poll.ofReceipt required receipt = none) :
      Made required hash
        [⟨time, .receipt hash, .ok (some receipt)⟩, ⟨later, .blockNumber, .ok head⟩]
        (.ofDepth required receipt head)

/-- One poll of a wait, with the times between which it was made. -/
structure PollRecord where
  began : Nat
  exchanges : List Exchange
  found : Poll
  ended : Nat

/-- The poll is one of a transaction at the depth that a configuration asks for. -/
def PollRecord.Made
    (config : ConfirmationConfig)
    (hash : Hash)
    (poll : PollRecord) : Prop :=
  Poll.Made (max config.confirmations 1) hash poll.exchanges poll.found

/--
The polls of a wait with at most so many left, from a time on, and the outcome of the wait. Each
poll is followed by a decision.
-/
inductive Watch.Course
    (config : ConfirmationConfig)
    (hash : Hash)
    (deadline : Nat) :
    (fuel now : Nat) → Watch → List PollRecord → Outcome → Prop where
  | exhausted
      (now : Nat)
      (watch : Watch) :
      Course config hash deadline 0 now watch [] (.unsettled watch.seen)
  | finished
      (fuel : Nat)
      (watch : Watch)
      (poll : PollRecord)
      (outcome : Outcome)
      (made : poll.Made config hash)
      (decision : Decision config deadline poll.ended watch poll.found (.finish outcome)) :
      Course config hash deadline (fuel + 1) poll.began watch [poll] outcome
  | paused
      (fuel wake : Nat)
      (watch next : Watch)
      (poll : PollRecord)
      (rest : List PollRecord)
      (outcome : Outcome)
      (made : poll.Made config hash)
      (decision : Decision config deadline poll.ended watch poll.found (.pause wake next))
      (course : Course config hash deadline fuel (max poll.ended wake) next rest outcome) :
      Course config hash deadline (fuel + 1) poll.began watch (poll :: rest) outcome

theorem Poll.Made.quiet
    {required : Nat}
    {hash : Hash}
    {exchanges : List Exchange}
    {found : Poll}
    (made : Poll.Made required hash exchanges found) :
    Quiet exchanges := by
  cases made <;> simp [Quiet, LedgerCall.isQuiet]

theorem Watch.Course.quiet
    {config : ConfirmationConfig}
    {hash : Hash}
    {deadline fuel now : Nat}
    {watch : Watch}
    {polls : List PollRecord}
    {outcome : Outcome}
    (course : Watch.Course config hash deadline fuel now watch polls outcome) :
    Quiet (polls.flatMap PollRecord.exchanges) := by
  induction course with
  | exhausted now watch =>
      exact .nil
  | finished fuel watch poll outcome made decision =>
      exact made.quiet.append .nil
  | paused fuel wake watch next poll rest outcome made decision course inductionHypothesis =>
      exact made.quiet.append inductionHypothesis

namespace Client

variable {σ : Type} (client : Client σ)

/-- A poll that nobody cancels is made to its end. -/
theorem yields_poll
    (hash : Hash)
    (world : World σ) :
    Process.Yields (client.poll none hash).run world fun exchanges result _ =>
      ∃ found,
        result = some found ∧
          Poll.Made (max client.config.confirmation.confirmations 1) hash exchanges found := by
  apply (Process.Yields.ask client.ledger (.receipt hash) world).uncancelled.bindSome
  rintro asked answer middle ⟨rfl, -, -⟩
  rcases answer with cause | _ | receipt
  · exact .pure ⟨_, rfl, .unanswered world.now cause⟩
  · exact .pure ⟨_, rfl, .absent world.now⟩
  cases settles :
      Poll.ofReceipt (max client.config.confirmation.confirmations 1) receipt with
  | some found =>
      simp only [settles]
      exact .pure ⟨_, rfl, .settled world.now receipt found settles⟩
  | none =>
      simp only [settles]
      apply (Process.Yields.ask client.ledger .blockNumber middle).uncancelled.bindSome
      rintro asked answer final ⟨rfl, -, -⟩
      cases answer with
      | error cause =>
          exact .pure ⟨_, rfl, .headless world.now middle.now receipt cause settles⟩
      | ok head =>
          exact .pure ⟨_, rfl, .measured world.now middle.now receipt head settles⟩

/-- A poll lets time pass at most. -/
theorem yields_poll_later
    (hash : Hash)
    (world : World σ) :
    Process.Yields (client.poll none hash).run world fun _ _ final => world.now ≤ final.now := by
  have later (call : LedgerCall) (present : World σ) :
      present.now ≤ (client.ledger.ask call present).2.now :=
    Nat.le_add_right _ _
  apply (Process.Yields.ask client.ledger (.receipt hash) world).uncancelled.bindSome
  rintro asked answer _ ⟨-, -, rfl⟩
  rcases answer with cause | _ | receipt
  · exact .pure (later _ _)
  · exact .pure (later _ _)
  cases settles :
      Poll.ofReceipt (max client.config.confirmation.confirmations 1) receipt with
  | some found =>
      simp only [settles]
      exact .pure (later _ _)
  | none =>
      simp only [settles]
      apply (Process.Yields.ask client.ledger .blockNumber _).uncancelled.bindSome
      rintro asked answer _ ⟨-, -, rfl⟩
      cases answer with
      | error cause => exact .pure (Nat.le_trans (later _ _) (later _ _))
      | ok head => exact .pure (Nat.le_trans (later _ _) (later _ _))

/--
In every world of a kind, a poll that nobody cancels is one of a kind and leaves such a world. Time
that passes, though not beyond a deadline, leaves such a world as well.
-/
structure PollsSteadily
    (hash : Hash)
    (deadline : Nat)
    (steady : World σ → Prop)
    (property : PollRecord → Prop) : Prop where
  polls :
    ∀ world, steady world →
      Process.Yields (client.poll none hash).run world fun exchanges result final =>
        ∃ found,
          result = some found ∧
            Poll.Made (max client.config.confirmation.confirmations 1) hash exchanges found ∧
            property ⟨world.now, exchanges, found, final.now⟩ ∧
            steady final
  passes :
    ∀ world moment, moment ≤ deadline → steady world →
      steady { world with now := max world.now moment }

/-- Every poll is of the kind that holds always. -/
theorem pollsSteadily_always
    (hash : Hash)
    (deadline : Nat) :
    client.PollsSteadily hash deadline (fun _ => True) fun _ => True where
  polls world _ :=
    (client.yields_poll hash world).weaken fun _ _ _ ⟨found, result, made⟩ =>
      ⟨found, result, made, trivial, trivial⟩
  passes _ _ _ _ := trivial

/-- Whatever else is known of the polls, none of them ends before it begins. -/
theorem PollsSteadily.later
    {client : Client σ}
    {hash : Hash}
    {deadline : Nat}
    {steady : World σ → Prop}
    {property : PollRecord → Prop}
    (steadily : client.PollsSteadily hash deadline steady property) :
    client.PollsSteadily hash deadline steady fun poll =>
      property poll ∧ poll.began ≤ poll.ended where
  polls world begins :=
    ((steadily.polls world begins).and (client.yields_poll_later hash world)).weaken
      fun _ _ _ ⟨⟨found, result, made, holds, goesOn⟩, later⟩ =>
        ⟨found, result, made, ⟨holds, later⟩, goesOn⟩
  passes := steadily.passes

/--
A wait that nobody cancels runs its course, and its polls are of the kind that each one is. All of
them have ended when the wait ends.
-/
theorem yields_watch_in_time
    {hash : Hash}
    {deadline : Nat}
    {steady : World σ → Prop}
    {property : PollRecord → Prop}
    (steadily : client.PollsSteadily hash deadline steady property)
    (fuel : Nat)
    (watch : Watch)
    (world : World σ)
    (begins : steady world) :
    Process.Yields (client.watch hash deadline none fuel watch).run world
      fun exchanges result final =>
        ∃ polls outcome,
          result = some outcome ∧
            exchanges = polls.flatMap PollRecord.exchanges ∧
            Watch.Course client.config.confirmation hash deadline fuel world.now watch polls
              outcome ∧
            (∀ poll ∈ polls, property poll) ∧
            steady final ∧
            world.now ≤ final.now ∧
            ∀ poll ∈ polls, poll.began ≤ poll.ended ∧ poll.ended ≤ final.now := by
  induction fuel generalizing watch world with
  | zero =>
      exact .pure
        ⟨[], _, rfl, rfl, .exhausted world.now watch, by simp, begins, Nat.le_refl _, by simp⟩
  | succ fuel inductionHypothesis =>
      apply (steadily.later.polls world begins).bindSome
      rintro polled found behind ⟨made, ⟨holds, later⟩, goesOn⟩
      apply (Process.Yields.now behind).lift.bindSome
      rintro _ _ behind ⟨rfl, rfl, rfl⟩
      let poll : PollRecord := ⟨world.now, polled, found, behind.now⟩
      have decision := watch.decision_decide client.config.confirmation deadline behind.now found
      cases decided : watch.decide client.config.confirmation deadline behind.now found with
      | finish outcome =>
          rw [decided] at decision
          exact .pure
            ⟨[poll], outcome, rfl, by simp [poll],
              .finished fuel watch poll outcome made decision, by simpa [poll] using holds, goesOn,
              later, by simpa [poll] using later⟩
      | pause wake next =>
          rw [decided] at decision
          apply (Process.Yields.sleepUntil wake behind).uncancelled.bindSome
          rintro _ _ _ ⟨rfl, rfl⟩
          have awake := steadily.passes behind wake decision.wake_le goesOn
          apply (inductionHypothesis next _ awake).weaken
          rintro more _ final ⟨polls, outcome, rfl, rfl, course, holdsLater, ends, passed, inTime⟩
          have ended : behind.now ≤ final.now := Nat.le_trans (Nat.le_max_left _ _) passed
          exact
            ⟨poll :: polls, outcome, rfl, by simp [poll],
              .paused fuel wake watch next poll polls outcome made decision course,
              List.forall_mem_cons.mpr ⟨holds, holdsLater⟩, ends, Nat.le_trans later ended,
              List.forall_mem_cons.mpr ⟨⟨later, ended⟩, inTime⟩⟩

/-- A wait that nobody cancels runs its course, and its polls are of the kind that each one is. -/
theorem yields_watch_of
    {hash : Hash}
    {deadline : Nat}
    {steady : World σ → Prop}
    {property : PollRecord → Prop}
    (steadily : client.PollsSteadily hash deadline steady property)
    (fuel : Nat)
    (watch : Watch)
    (world : World σ)
    (begins : steady world) :
    Process.Yields (client.watch hash deadline none fuel watch).run world
      fun exchanges result final =>
        ∃ polls outcome,
          result = some outcome ∧
            exchanges = polls.flatMap PollRecord.exchanges ∧
            Watch.Course client.config.confirmation hash deadline fuel world.now watch polls
              outcome ∧
            (∀ poll ∈ polls, property poll) ∧
            steady final :=
  (client.yields_watch_in_time steadily fuel watch world begins).weaken
    fun _ _ _ ⟨polls, outcome, result, exchanged, course, holds, ends, _⟩ =>
      ⟨polls, outcome, result, exchanged, course, holds, ends⟩

/--
A wait runs its course from its own time on, with polls of the kind that each one is, and its result
is about its handle. All of its polls have ended when it ends.
-/
theorem yields_await_in_time
    {handle : Handle}
    {timeout : Nat}
    {world : World σ}
    {steady : World σ → Prop}
    {property : PollRecord → Prop}
    (steadily : client.PollsSteadily handle.hash (world.now + timeout) steady property)
    (begins : steady world) :
    Process.Yields (client.await handle timeout) world fun exchanges result final =>
      result.hash = handle.hash ∧
        result.label = handle.label ∧
          ∃ polls : List PollRecord,
            exchanges = polls.flatMap PollRecord.exchanges ∧
              Watch.Course client.config.confirmation handle.hash (world.now + timeout)
                (client.pollLimit timeout) world.now .start
                polls result.outcome ∧
              (∀ poll ∈ polls, property poll) ∧
              steady final ∧
              ∀ poll ∈ polls, poll.began ≤ poll.ended ∧ poll.ended ≤ final.now := by
  apply (Process.Yields.now world).bind
  rintro _ _ present ⟨rfl, rfl, rfl⟩
  let limit := client.pollLimit timeout
  apply (client.yields_watch_in_time steadily limit .start present begins).bind
  rintro _ _ behind ⟨polls, outcome, rfl, rfl, course, holds, ends, -, inTime⟩
  exact .pure ⟨rfl, rfl, polls, by simp, course, holds, ends, inTime⟩

/--
A wait runs its course from its own time on, with polls of the kind that each one is, and its result
is about its handle.
-/
theorem yields_await_of
    {handle : Handle}
    {timeout : Nat}
    {world : World σ}
    {steady : World σ → Prop}
    {property : PollRecord → Prop}
    (steadily : client.PollsSteadily handle.hash (world.now + timeout) steady property)
    (begins : steady world) :
    Process.Yields (client.await handle timeout) world fun exchanges result final =>
      result.hash = handle.hash ∧
        result.label = handle.label ∧
          ∃ polls : List PollRecord,
            exchanges = polls.flatMap PollRecord.exchanges ∧
              Watch.Course client.config.confirmation handle.hash (world.now + timeout)
                (client.pollLimit timeout) world.now .start
                polls result.outcome ∧
              (∀ poll ∈ polls, property poll) ∧
              steady final :=
  (client.yields_await_in_time steadily begins).weaken
    fun _ _ _ ⟨sameHash, sameLabel, polls, exchanged, course, holds, ends, _⟩ =>
      ⟨sameHash, sameLabel, polls, exchanged, course, holds, ends⟩

/-- A wait runs its course from its own time on, and its result is about its handle. -/
theorem yields_await
    (handle : Handle)
    (timeout : Nat)
    (world : World σ) :
    Process.Yields (client.await handle timeout) world fun exchanges result _ =>
      result.hash = handle.hash ∧
        result.label = handle.label ∧
          ∃ polls : List PollRecord,
            exchanges = polls.flatMap PollRecord.exchanges ∧
              Watch.Course client.config.confirmation handle.hash (world.now + timeout)
                (client.pollLimit timeout) world.now .start
                polls result.outcome := by
  apply
    (client.yields_await_of (client.pollsSteadily_always handle.hash (world.now + timeout))
      trivial).weaken
  rintro exchanges result _ ⟨sameHash, sameLabel, polls, exchanged, course, -, -⟩
  exact ⟨sameHash, sameLabel, polls, exchanged, course⟩

end Client

end ContractGateway
