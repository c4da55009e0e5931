import ContractGateway.Proofs.Transaction.Settlement

/-!
# What a wait finds is fixed by its deadline

A `Timeline` is what there is to know about one transaction at every moment: its receipt, which
stays once it is there, and the newest block, which never falls back. A ledger follows a timeline
when it answers at once and with nothing but the truth of the moment, save that a query may fail in
a way that is worth repeating, as long as this does not happen at the deadline.

A wait over such a ledger then comes to what a single poll at its deadline finds. An early
settlement is one that the deadline confirms, since timelines only grow, and a wait that nothing
settles lives to see its deadline: pauses of any length are cut short there, and there are polls
enough left for it. So neither the pauses nor the failures change an outcome.
-/

namespace ContractGateway

/-- A transaction's receipt and the newest block, as time passes. -/
structure Timeline where
  receipt : Nat → Option Receipt
  head : Nat → Nat
  receipt_stays :
    ∀ {earlier later : Nat} {found : Receipt},
      earlier ≤ later → receipt earlier = some found → receipt later = some found
  head_mono : ∀ {earlier later : Nat}, earlier ≤ later → head earlier ≤ head later

/-- The outcome of a wait that ends with its first poll. -/
def Poll.outcome : Poll → Outcome
  | .settled outcome => outcome
  | .included receipt => .pending receipt
  | .absent | .failed _ => .timedOut

namespace Timeline

variable (timeline : Timeline)

/-- How a transaction stands at a moment when a number of blocks is to hold it. -/
def outcome (required moment : Nat) : Outcome :=
  match timeline.receipt moment with
  | none => .timedOut
  | some receipt =>
      if receipt.succeeded = false then .reverted receipt
      else if required = 1 ∨ receipt.block + required ≤ timeline.head moment + 1 then
        .confirmed receipt
      else .pending receipt

/-- What a poll finds at a moment. -/
def find (required moment : Nat) : Poll :=
  match timeline.receipt moment with
  | none => .absent
  | some receipt =>
      (Poll.ofReceipt required receipt).getD
        (.ofDepth required receipt (timeline.head moment))

/-- A single poll tells how the transaction stands. -/
theorem outcome_find
    {required : Nat}
    (positive : 1 ≤ required)
    (moment : Nat) :
    (timeline.find required moment).outcome = timeline.outcome required moment := by
  rw [find, outcome]
  cases timeline.receipt moment with
  | none =>
      rfl
  | some receipt =>
      simp only [Poll.ofReceipt]
      cases receipt.succeeded with
      | false =>
          rfl
      | true =>
          by_cases single : required = 1
          · simp [single, Poll.outcome]
          · have depth :
                required ≤ timeline.head moment + 1 - receipt.block ↔
                  receipt.block + required ≤ timeline.head moment + 1 := by
              omega
            by_cases deep : receipt.block + required ≤ timeline.head moment + 1 <;>
              simp [single, deep, depth, Poll.ofDepth, Poll.outcome]

/-- What settles a transaction settles it from then on. -/
theorem find_of_settled
    {required earlier later : Nat}
    {outcome : Outcome}
    (order : earlier ≤ later)
    (settled : timeline.find required earlier = .settled outcome) :
    timeline.find required later = .settled outcome := by
  rw [find] at settled ⊢
  cases seen : timeline.receipt earlier with
  | none =>
      simp [seen] at settled
  | some receipt =>
      rw [timeline.receipt_stays order seen]
      rw [seen] at settled
      cases alone : Poll.ofReceipt required receipt with
      | some found =>
          simpa [alone] using settled
      | none =>
          -- The newest block only rises, so a receipt that was deep enough still is.
          have risen := timeline.head_mono order
          simp only [alone, Option.getD_none, Poll.ofDepth] at settled ⊢
          split at settled
          · rename_i deep
            rw [if_pos (by omega)]
            exact settled
          · cases settled

/-- A poll finds nothing when there is no receipt, and what it finds rests on the receipt else. -/
theorem find_absent_or_restsOn
    (required moment : Nat) :
    (timeline.receipt moment = none ∧ timeline.find required moment = .absent) ∨
      ∃ receipt,
        timeline.receipt moment = some receipt ∧
          PollRecord.RestsOn receipt (timeline.find required moment) := by
  cases seen : timeline.receipt moment with
  | none =>
      exact .inl ⟨rfl, by simp [find, seen]⟩
  | some receipt =>
      refine .inr ⟨receipt, rfl, ?_⟩
      simp only [find, seen]
      cases alone : Poll.ofReceipt required receipt with
      | some found =>
          rcases Poll.ofReceipt_eq_some alone with rfl | rfl
          · exact .reverted
          · exact .confirmed
      | none =>
          rw [Option.getD_none]
          rcases Poll.ofDepth_cases required receipt (timeline.head moment) with depth | depth
          · rw [depth]
            exact .confirmed
          · rw [depth]
            exact .included

theorem receipt_of_included
    {required moment : Nat}
    {receipt : Receipt}
    (included : timeline.find required moment = .included receipt) :
    timeline.receipt moment = some receipt := by
  rcases timeline.find_absent_or_restsOn required moment with ⟨-, absent⟩ | ⟨other, seen, rests⟩
  · cases included.symm.trans absent
  · rw [included] at rests
    cases rests
    exact seen

end Timeline

/-- The answer is the truth, or at another moment than the deadline a failure worth repeating. -/
inductive Truthful {α : Type} (deadline moment : Nat) (truth : α) :
    Except TransportError α → Prop where
  | told : Truthful deadline moment truth (.ok truth)
  | excused
      (cause : TransportError)
      (early : moment ≠ deadline)
      (transient : (FailureKind.ofError cause).isTransient = true) :
      Truthful deadline moment truth (.error cause)

namespace Ledger

variable {σ : Type}

/--
As long as it is in one of some states, which answering does not leave, the ledger answers a call at
once and with the truth of the moment, failures aside that are worth repeating and do not happen
at the deadline.
-/
structure Tells
    (ledger : Ledger σ)
    (call : LedgerCall)
    (truth : Nat → call.Answer)
    (deadline : Nat)
    (states : σ → Prop) : Prop where
  instant : ∀ moment state, states state → ledger.latency call moment state = 0
  truthful :
    ∀ moment state, states state →
      Truthful deadline moment (truth moment) (ledger.answer call moment state).1
  stays : ∀ moment state, states state → states (ledger.answer call moment state).2

/-- The ledger tells the timeline of a transaction to whoever waits for it. -/
structure Follows
    (ledger : Ledger σ)
    (timeline : Timeline)
    (hash : Hash)
    (deadline : Nat)
    (states : σ → Prop) : Prop where
  receipt : ledger.Tells (.receipt hash) timeline.receipt deadline states
  head : ledger.Tells .blockNumber timeline.head deadline states

theorem Tells.ask
    {ledger : Ledger σ}
    {call : LedgerCall}
    {truth : Nat → call.Answer}
    {deadline : Nat}
    {states : σ → Prop}
    (tells : ledger.Tells call truth deadline states)
    {world : World σ}
    (holds : states world.ledger) :
    Process.Yields (ledger.ask call) world fun exchanges answer final =>
      exchanges = [⟨world.now, call, answer⟩] ∧
        Truthful deadline world.now (truth world.now) answer ∧
        final.now = world.now ∧
        states final.ledger := by
  apply (Process.Yields.ask ledger call world).weaken
  rintro exchanges answer final ⟨rfl, rfl, rfl⟩
  refine ⟨rfl, tells.truthful _ _ holds, ?_, tells.stays _ _ holds⟩
  rw [Ledger.ask, tells.instant _ _ holds, Nat.add_zero]

end Ledger

/--
The poll takes no time and finds what there is, or fails at another moment than the deadline in a
way that is worth repeating.
-/
structure PollRecord.Follows
    (timeline : Timeline)
    (required deadline : Nat)
    (poll : PollRecord) : Prop where
  instant : poll.ended = poll.began
  finds :
    poll.found = timeline.find required poll.began ∨
      ∃ cause,
        poll.found = .failed cause ∧
          poll.began ≠ deadline ∧ (FailureKind.ofError cause).isTransient = true

/-- A poll over a ledger that follows a timeline follows it. -/
theorem Client.pollsSteadily_of_follows
    {σ : Type}
    (client : Client σ)
    {timeline : Timeline}
    {hash : Hash}
    {deadline : Nat}
    {states : σ → Prop}
    (follows : client.ledger.Follows timeline hash deadline states) :
    client.PollsSteadily hash deadline (fun world => states world.ledger)
      (PollRecord.Follows timeline (max client.config.confirmation.confirmations 1) deadline) where
  passes _ _ _ holds := holds
  polls world holds := by
    apply (follows.receipt.ask holds).uncancelled.bindSome
    rintro asked answer middle ⟨rfl, truthful, same, goesOn⟩
    generalize present : timeline.receipt world.now = receipt? at truthful
    cases truthful with
    | excused cause early transient =>
        exact .pure
          ⟨_, rfl, .unanswered world.now cause, ⟨same, .inr ⟨cause, rfl, early, transient⟩⟩, goesOn⟩
    | told =>
        cases receipt? with
        | none =>
            exact .pure
              ⟨_, rfl, .absent world.now, ⟨same, .inl (by simp [Timeline.find, present])⟩, goesOn⟩
        | some receipt =>
            cases settles :
                Poll.ofReceipt (max client.config.confirmation.confirmations 1) receipt with
            | some found =>
                simp only [settles]
                exact .pure
                  ⟨_, rfl, .settled world.now receipt found settles,
                    ⟨same, .inl (by simp [Timeline.find, present, settles])⟩, goesOn⟩
            | none =>
                simp only [settles]
                apply (follows.head.ask goesOn).uncancelled.bindSome
                rintro asked answer final ⟨rfl, truthful, still, ends⟩
                -- The receipt query took no time, so the head is that of the same moment.
                rw [same] at truthful still
                cases truthful with
                | excused cause early transient =>
                    exact .pure
                      ⟨_, rfl, .headless world.now middle.now receipt cause settles,
                        ⟨still, .inr ⟨cause, rfl, early, transient⟩⟩, ends⟩
                | told =>
                    exact .pure
                      ⟨_, rfl, .measured world.now middle.now receipt _ settles,
                        ⟨still, .inl (by simp [Timeline.find, present, settles])⟩, ends⟩

namespace Watch

theorem pollInterval_le_interval
    (config : ConfirmationConfig)
    (watch : Watch) :
    config.pollInterval ≤ watch.interval config := by
  rw [interval]
  split
  · exact Nat.le_refl _
  · exact Nat.le_max_left _ _

/-- A pause leaves polls enough to reach the deadline in steps of the poll interval. -/
theorem Decision.enough
    {config : ConfirmationConfig}
    {deadline now wake fuel : Nat}
    {watch next : Watch}
    {found : Poll}
    (decision : Decision config deadline now watch found (.pause wake next))
    (enough : deadline - now + config.pollInterval ≤ (fuel + 1) * config.pollInterval) :
    deadline - max now wake + config.pollInterval ≤ fuel * config.pollInterval := by
  cases decision with
  | paused _ unsettled early harmless =>
      have least := pollInterval_le_interval config (watch.after found)
      rw [Nat.add_mul, Nat.one_mul] at enough
      -- One more poll at least is left, since the deadline is still ahead.
      have another : config.pollInterval ≤ fuel * config.pollInterval := by
        cases fuel with
        | zero => omega
        | succ fuel => exact Nat.le_mul_of_pos_left _ fuel.succ_pos
      omega

end Watch

/-- The polls that a wait may make are enough to reach its deadline. -/
theorem Client.pollLimit_enough
    {σ : Type}
    {client : Client σ}
    (paced : 1 ≤ client.config.confirmation.pollInterval)
    (timeout : Nat) :
    timeout + client.config.confirmation.pollInterval ≤
      client.pollLimit timeout * client.config.confirmation.pollInterval := by
  rw [pollLimit]
  generalize client.config.confirmation.pollInterval = interval at paced ⊢
  rw [if_neg (by omega), Nat.add_mul]
  have division := Nat.div_add_mod timeout interval
  have remainder := Nat.mod_lt timeout paced
  rw [Nat.mul_comm] at division
  omega

/-- What a wait remembers is the receipt that there is. -/
def Timeline.Recalls (timeline : Timeline) (moment : Nat) (watch : Watch) : Prop :=
  ∀ receipt, watch.seen = some receipt → timeline.receipt moment = some receipt

/-- After a poll that settles nothing, a wait still remembers nothing but the receipt there is. -/
theorem Timeline.Recalls.after
    {timeline : Timeline}
    {required deadline moment : Nat}
    {watch : Watch}
    {poll : PollRecord}
    (recalls : timeline.Recalls poll.began watch)
    (follows : poll.Follows timeline required deadline)
    (unsettled : poll.found.settled? = none)
    (later : poll.began ≤ moment) :
    timeline.Recalls moment (watch.after poll.found) := by
  intro receipt seen
  apply timeline.receipt_stays later
  cases found : poll.found with
  | settled outcome =>
      rw [found] at unsettled
      cases unsettled
  | included other =>
      rw [found] at seen
      obtain rfl : other = receipt := Option.some.inj seen
      rcases follows.finds with truth | ⟨cause, failed, -⟩
      · exact timeline.receipt_of_included (truth.symm.trans found)
      · cases found.symm.trans failed
  | absent =>
      rw [found] at seen
      exact recalls receipt seen
  | failed cause =>
      rw [found] at seen
      exact recalls receipt seen

/--
A poll at the deadline that settles nothing leaves the wait with how the transaction stands there.
-/
theorem Timeline.Recalls.unsettled_eq
    {timeline : Timeline}
    {required deadline : Nat}
    (positive : 1 ≤ required)
    {watch : Watch}
    {poll : PollRecord}
    (recalls : timeline.Recalls poll.began watch)
    (follows : poll.Follows timeline required deadline)
    (unsettled : poll.found.settled? = none)
    (due : poll.began = deadline) :
    Outcome.unsettled (watch.after poll.found).seen = timeline.outcome required deadline := by
  rcases follows.finds with truth | ⟨-, -, early, -⟩
  · rw [due] at truth recalls
    rw [← timeline.outcome_find positive, truth]
    rw [truth] at unsettled
    rcases timeline.find_absent_or_restsOn required deadline with
      ⟨nothing, absent⟩ | ⟨receipt, -, rests⟩
    · -- A receipt that was seen before would still be there.
      have unseen : watch.seen = none := by
        cases seen : watch.seen with
        | none => rfl
        | some receipt => cases nothing.symm.trans (recalls receipt seen)
      rw [absent, Watch.after, unseen]
      rfl
    · generalize timeline.find required deadline = found at rests unsettled
      cases rests with
      | reverted => cases unsettled
      | confirmed => cases unsettled
      | included => rfl
  · exact absurd due early

/--
A course that follows a timeline, in time for its deadline and with polls enough to reach it, ends
with how the transaction stands there.
-/
theorem Watch.Course.outcome_eq
    {config : ConfirmationConfig}
    {hash : Hash}
    {deadline fuel now : Nat}
    {watch : Watch}
    {polls : List PollRecord}
    {outcome : Outcome}
    (course : Course config hash deadline fuel now watch polls outcome)
    {timeline : Timeline}
    (paced : 1 ≤ config.pollInterval)
    (enough : deadline - now + config.pollInterval ≤ fuel * config.pollInterval)
    (early : now ≤ deadline)
    (recalls : timeline.Recalls now watch)
    (follows :
      ∀ poll ∈ polls, poll.Follows timeline (max config.confirmations 1) deadline) :
    outcome = timeline.outcome (max config.confirmations 1) deadline := by
  have positive : 1 ≤ max config.confirmations 1 := Nat.le_max_right _ _
  -- `enough`, `early` and `recalls` are the invariant: they hold again after every pause.
  induction course with
  | exhausted now watch =>
      omega
  | finished fuel watch poll outcome made decision =>
      have poll_follows := follows poll (List.mem_singleton.mpr rfl)
      rw [poll_follows.instant] at decision
      generalize found : poll.found = result at decision
      cases decision with
      | settled outcome =>
          rcases poll_follows.finds with truth | ⟨cause, failed, -⟩
          · rw [← timeline.outcome_find positive,
              timeline.find_of_settled early (truth.symm.trans found)]
            rfl
          · cases found.symm.trans failed
      | ended result unsettled ending =>
          subst found
          rcases ending with late | fatal
          · exact recalls.unsettled_eq positive poll_follows unsettled (Nat.le_antisymm early late)
          · -- What is fatal is neither the truth nor an excuse.
            rcases poll_follows.finds with truth | ⟨cause, failed, -, transient⟩
            · rw [truth] at fatal
              rcases timeline.find_absent_or_restsOn (max config.confirmations 1) poll.began with
                ⟨-, absent⟩ | ⟨receipt, -, rests⟩
              · rw [absent] at fatal
                cases fatal
              · generalize timeline.find _ poll.began = other at rests fatal
                cases rests <;> cases fatal
            · rw [failed, Poll.isFatal, transient] at fatal
              cases fatal
  | paused fuel wake watch next poll rest outcome made decision course inductionHypothesis =>
      obtain ⟨poll_follows, rest_follows⟩ := List.forall_mem_cons.mp follows
      have goesOn := decision.wake_le
      have same := poll_follows.instant
      rw [same] at decision
      have enoughLeft := decision.enough enough
      rw [same] at inductionHypothesis
      apply inductionHypothesis enoughLeft (by omega) ?_ rest_follows
      generalize found : poll.found = result at decision
      cases decision with
      | paused result unsettled _ _ =>
          subst found
          exact recalls.after poll_follows unsettled (Nat.le_max_left _ _)

namespace Client

variable {σ : Type} (client : Client σ)

/-- Over a ledger that follows a timeline, a wait ends with how the transaction stands. -/
theorem await_of_follows
    (handle : Handle)
    (timeout : Nat)
    {world : World σ}
    {timeline : Timeline}
    {states : σ → Prop}
    (paced : 1 ≤ client.config.confirmation.pollInterval)
    (follows : client.ledger.Follows timeline handle.hash (world.now + timeout) states)
    (begins : states world.ledger) :
    (client.await handle timeout world).1 =
      ⟨handle.hash, handle.label,
        timeline.outcome (max client.config.confirmation.confirmations 1)
          (world.now + timeout)⟩ := by
  obtain ⟨_, -, sameHash, sameLabel, polls, -, course, follow, -⟩ :=
    client.yields_await_of (client.pollsSteadily_of_follows follows) begins
  have enough := pollLimit_enough paced timeout
  have ends :=
    course.outcome_eq paced (by omega) (Nat.le_add_right _ _) (by rintro receipt ⟨⟩) follow
  rw [← sameHash, ← sameLabel, ← ends]

/-- A poll at the deadline tells how the transaction stands. -/
theorem poll_of_follows
    {hash : Hash}
    {deadline : Nat}
    {timeline : Timeline}
    {states : σ → Prop}
    (follows : client.ledger.Follows timeline hash deadline states)
    {state : σ}
    (holds : states state)
    (log : List Exchange) :
    ((client.poll none hash).run ⟨deadline, state, log⟩).1.map Poll.outcome =
      some (timeline.outcome (max client.config.confirmation.confirmations 1) deadline) := by
  obtain ⟨_, -, found, result, -, ⟨-, finds⟩, -⟩ :=
    (client.pollsSteadily_of_follows follows).polls ⟨deadline, state, log⟩ holds
  rw [result, Option.map_some, ← timeline.outcome_find (Nat.le_max_right _ _)]
  rcases finds with truth | ⟨-, -, early, -⟩
  · exact congrArg (some ∘ Poll.outcome) truth
  · exact absurd rfl early

/--
Over a ledger that follows a timeline, a wait ends with how the transaction stands at its deadline.
This is what a single poll finds there, and what any other wait comes to that wants the same number
of blocks by the same deadline, whatever its pauses, its start and the failures in its way.
-/
theorem await_eq_at_deadline
    (handle : Handle)
    (timeout : Nat)
    (world : World σ)
    (timeline : Timeline)
    (states : σ → Prop)
    (paced : 1 ≤ client.config.confirmation.pollInterval)
    (follows : client.ledger.Follows timeline handle.hash (world.now + timeout) states)
    (begins : states world.ledger) :
    let deadline := world.now + timeout
    let required := max client.config.confirmation.confirmations 1
    (client.await handle timeout world).1 =
        ⟨handle.hash, handle.label, timeline.outcome required deadline⟩ ∧
      (∀ state log, states state →
        ((client.poll none handle.hash).run ⟨deadline, state, log⟩).1.map Poll.outcome =
          some (timeline.outcome required deadline)) ∧
      ∀ {τ : Type} (other : Client τ) (states : τ → Prop) (span : Nat) (start : World τ),
        other.config.confirmation.confirmations = client.config.confirmation.confirmations →
        1 ≤ other.config.confirmation.pollInterval →
        start.now + span = deadline →
        other.ledger.Follows timeline handle.hash deadline states →
        states start.ledger →
        (other.await handle span start).1 = (client.await handle timeout world).1 := by
  intro deadline required
  have ends := client.await_of_follows handle timeout paced follows begins
  refine ⟨ends, fun state log holds => client.poll_of_follows follows holds log, ?_⟩
  intro τ other states span start sameDepth otherPaced sameDeadline otherFollows otherBegins
  rw [← sameDeadline] at otherFollows
  rw [ends, other.await_of_follows handle span otherPaced otherFollows otherBegins, sameDepth,
    sameDeadline]

end Client

/-- A transaction that is included after a while, below blocks that keep coming. -/
def slowTimeline : Timeline where
  receipt moment := if moment < 250 then none else some ⟨1, 100, 21000, 1, true⟩
  head moment := 100 + moment / 500
  receipt_stays order seen := by
    split at seen
    · cases seen
    · rw [if_neg (by omega)]
      exact seen
  head_mono order := Nat.add_le_add_left (Nat.div_le_div_right order) 100

/-- A ledger that tells this timeline, but whose connection is often lost before a deadline. -/
def flakyLedger : Ledger Unit where
  defaultSender := none
  answer
    | .receipt _, moment, state => (.ok (slowTimeline.receipt moment), state)
    | .blockNumber, moment, state =>
        (if moment % 300 = 0 ∧ moment < 1000 then .error (.custom "connection reset by peer")
          else .ok (slowTimeline.head moment), state)
    | _, _, state => (.error .backendGone, state)

theorem flakyLedger_follows :
    flakyLedger.Follows slowTimeline 1 1000 fun _ => True where
  receipt := ⟨fun _ _ _ => rfl, fun _ _ _ => .told, fun _ _ _ => trivial⟩
  head := by
    refine ⟨fun _ _ _ => rfl, fun moment state _ => ?_, fun _ _ _ => trivial⟩
    change Truthful 1000 moment (slowTimeline.head moment) (ite _ _ _)
    split
    · exact .excused _ (by omega) (by decide +kernel)
    · exact .told

/-- Lost connections do not keep such a transaction from being confirmed in time. -/
theorem flakyLedger_confirms :
    let client : Client Unit :=
      { ledger := flakyLedger
        config := { confirmation := { pollInterval := 100, confirmations := 3 } } }
    1 ≤ client.config.confirmation.pollInterval ∧
      client.ledger.Follows slowTimeline 1 (0 + 1000) (fun _ => True) ∧
      (client.await ⟨1, "write", none, none⟩ 1000 (World.start ())).1 =
        ⟨1, "write", .confirmed ⟨1, 100, 21000, 1, true⟩⟩ :=
  ⟨by decide, flakyLedger_follows,
    (Client.await_eq_at_deadline _ ⟨1, "write", none, none⟩ 1000 (World.start ()) slowTimeline
      (fun _ => True) (by decide) flakyLedger_follows trivial).1⟩

end ContractGateway
