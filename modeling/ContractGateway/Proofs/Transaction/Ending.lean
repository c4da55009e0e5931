import ContractGateway.Proofs.Transaction.Deadline
import Mathlib.Algebra.Order.Floor.Div

/-!
# When a wait ends

Over a ledger that answers at once, only pauses take time. Each of them is as long as the poll
interval or ends at the deadline, so what is left of the time shrinks with every poll, and no poll
begins after the deadline. A wait therefore ends with the first poll that settles it, fails for good
or is made at the deadline. `Watch.Course.length_le` counts the polls until then, and
`Watch.Course.ends` finds the last of them.

The bound on polls that a wait carries with it plays no part in this: `Client.run_watch_of_enough`
says that a wait with more polls to spare comes to the same in the same world.
-/

namespace ContractGateway

variable {σ : Type}

/-- Every call is answered at the moment that it is made. -/
def Ledger.IsInstant (ledger : Ledger σ) : Prop :=
  ∀ call moment state, ledger.latency call moment state = 0

theorem Ledger.IsInstant.ask
    {ledger : Ledger σ}
    (instant : ledger.IsInstant)
    (call : LedgerCall)
    (world : World σ) :
    Process.Yields (ledger.ask call) world fun exchanges answer final =>
      exchanges = [⟨world.now, call, answer⟩] ∧ final.now = world.now := by
  apply (Process.Yields.ask ledger call world).weaken
  rintro exchanges answer final ⟨rfl, -, rfl⟩
  refine ⟨rfl, ?_⟩
  rw [Ledger.ask, instant, Nat.add_zero]

namespace PollRecord

/-- The poll takes no time: all that it exchanges is exchanged at the moment that it begins. -/
structure IsInstant (poll : PollRecord) : Prop where
  ended : poll.ended = poll.began
  exchanged : ∀ exchange ∈ poll.exchanges, exchange.time = poll.began

/-- The poll leaves nothing to wait for: it settles, fails for good or is made at the deadline. -/
def Ends (deadline : Nat) (poll : PollRecord) : Prop :=
  poll.found.settled?.isSome = true ∨ poll.found.isFatal = true ∨ poll.began = deadline

end PollRecord

namespace Client

variable (client : Client σ)

/-- A poll over a ledger that answers at once takes no time. -/
theorem yields_poll_of_isInstant
    (instant : client.ledger.IsInstant)
    (hash : Hash)
    (world : World σ) :
    Process.Yields (client.poll none hash).run world fun exchanges _ final =>
      (∀ exchange ∈ exchanges, exchange.time = world.now) ∧ final.now = world.now := by
  apply (instant.ask (.receipt hash) world).uncancelled.bindSome
  rintro asked answer middle ⟨rfl, same⟩
  rcases answer with cause | _ | receipt
  · exact .pure ⟨by simp, same⟩
  · exact .pure ⟨by simp, same⟩
  cases settles :
      Poll.ofReceipt (max client.config.confirmation.confirmations 1) receipt with
  | some found =>
      simp only [settles]
      exact .pure ⟨by simp, same⟩
  | none =>
      simp only [settles]
      apply (instant.ask .blockNumber middle).uncancelled.bindSome
      rintro asked answer final ⟨rfl, still⟩
      cases answer with
      | error cause => exact .pure ⟨by simp [same], still.trans same⟩
      | ok head => exact .pure ⟨by simp [same], still.trans same⟩

/-- What a poll over a ledger that answers at once finds, and the world that it leaves. -/
theorem exists_poll
    (instant : client.ledger.IsInstant)
    (hash : Hash)
    (world : World σ) :
    ∃ found behind,
      (client.poll none hash).run world = (some found, behind) ∧ behind.now = world.now := by
  obtain ⟨_, -, ⟨found, result, -⟩, -, same⟩ :=
    (client.yields_poll hash world).and (client.yields_poll_of_isInstant instant hash world)
  exact ⟨found, _, Prod.ext result rfl, same⟩

/-- Between its beginning and its deadline, a wait over such a ledger polls without taking time. -/
theorem pollsSteadily_of_isInstant
    (instant : client.ledger.IsInstant)
    (hash : Hash)
    (start deadline : Nat) :
    client.PollsSteadily hash deadline
      (fun world => start ≤ world.now ∧ world.now ≤ deadline) PollRecord.IsInstant where
  polls world within := by
    apply ((client.yields_poll hash world).and
      (client.yields_poll_of_isInstant instant hash world)).weaken
    rintro exchanges result final ⟨⟨found, rfl, made⟩, exchanged, same⟩
    exact ⟨found, rfl, made, ⟨same, exchanged⟩, same ▸ within⟩
  passes world moment inTime within :=
    ⟨Nat.le_trans within.1 (Nat.le_max_left _ _), Nat.max_le.mpr ⟨within.2, inTime⟩⟩

end Client

/-- Where a part is taken from a span that is not empty, fewer parts are left, begun ones too. -/
theorem ceilDiv_lt_ceilDiv
    {part span rest : Nat}
    (positive : 0 < part)
    (ahead : 0 < span)
    (shorter : rest ≤ span - part) :
    rest ⌈/⌉ part < span ⌈/⌉ part := by
  have covered : span ≤ part * (span ⌈/⌉ part) := le_smul_ceilDiv positive
  cases counted : span ⌈/⌉ part with
  | zero =>
      rw [counted, Nat.mul_zero] at covered
      omega
  | succ count =>
      rw [counted, Nat.mul_succ] at covered
      exact Nat.lt_succ_of_le ((ceilDiv_le_iff_le_mul positive).mpr (by omega))

/-- The bound on the polls of a wait is above the number that there is time for. -/
theorem ceilDiv_lt_pollLimit
    {client : Client σ}
    (paced : 1 ≤ client.config.confirmation.pollInterval)
    (timeout : Nat) :
    timeout ⌈/⌉ client.config.confirmation.pollInterval < client.pollLimit timeout := by
  rw [Client.pollLimit]
  generalize client.config.confirmation.pollInterval = interval at paced ⊢
  rw [if_neg (by omega)]
  have parts : timeout ⌈/⌉ interval ≤ timeout / interval + 1 :=
    (ceilDiv_le_iff_le_mul paced).mpr (Nat.lt_mul_div_succ timeout paced).le
  omega

namespace Watch

variable {config : ConfirmationConfig} {deadline : Nat}

/-- A pause is made while time is left, and fewer polls fit into the time behind it. -/
theorem Decision.fewer
    {now wake : Nat}
    {watch next : Watch}
    {found : Poll}
    (decision : Decision config deadline now watch found (.pause wake next))
    (paced : 1 ≤ config.pollInterval) :
    now < deadline ∧
      (deadline - max now wake) ⌈/⌉ config.pollInterval <
        (deadline - now) ⌈/⌉ config.pollInterval := by
  cases decision with
  | paused _ unsettled early harmless =>
      have least := pollInterval_le_interval config (watch.after found)
      exact ⟨early, ceilDiv_lt_ceilDiv paced (Nat.sub_pos_of_lt early) (by omega)⟩

namespace Course

variable
  {hash : Hash} {fuel now : Nat} {watch : Watch} {polls : List PollRecord} {outcome : Outcome}

/-- A course makes a poll at its beginning and one for each poll interval that is left, begun ones
counted. -/
theorem length_le
    (course : Course config hash deadline fuel now watch polls outcome)
    (paced : 1 ≤ config.pollInterval)
    (instant : ∀ poll ∈ polls, poll.IsInstant) :
    polls.length ≤ (deadline - now) ⌈/⌉ config.pollInterval + 1 := by
  induction course with
  | exhausted now watch =>
      exact Nat.zero_le _
  | finished fuel watch poll outcome made decision =>
      exact Nat.le_add_left _ _
  | paused fuel wake watch next poll rest outcome made decision course inductionHypothesis =>
      obtain ⟨takesNoTime, others⟩ := List.forall_mem_cons.mp instant
      have fewer := (decision.fewer paced).2
      have counted := inductionHypothesis others
      rw [takesNoTime.ended] at fewer counted
      rw [List.length_cons]
      omega

/-- With polls enough, a course ends with the first poll that leaves nothing to wait for. -/
theorem ends
    (course : Course config hash deadline fuel now watch polls outcome)
    (paced : 1 ≤ config.pollInterval)
    (instant : ∀ poll ∈ polls, poll.IsInstant)
    (early : now ≤ deadline)
    (enough : (deadline - now) ⌈/⌉ config.pollInterval + 1 ≤ fuel) :
    ∃ before last,
      polls = before ++ [last] ∧
        last.Ends deadline ∧ ∀ poll ∈ before, ¬ poll.Ends deadline := by
  induction course with
  | exhausted now watch =>
      exact absurd enough (Nat.not_succ_le_zero _)
  | finished fuel watch poll outcome made decision =>
      refine ⟨[], poll, rfl, ?_, by simp⟩
      have takesNoTime := (instant poll List.mem_cons_self).ended
      generalize found : poll.found = result at decision
      cases decision with
      | settled outcome =>
          exact .inl (by rw [found]; rfl)
      | ended result unsettled ending =>
          subst found
          rcases ending with late | fatal
          · exact .inr (.inr (Nat.le_antisymm early (takesNoTime ▸ late)))
          · exact .inr (.inl fatal)
  | paused fuel wake watch next poll rest outcome made decision course inductionHypothesis =>
      obtain ⟨takesNoTime, others⟩ := List.forall_mem_cons.mp instant
      have wakes := decision.wake_le
      obtain ⟨ahead, fewer⟩ := decision.fewer paced
      rw [takesNoTime.ended] at fewer inductionHypothesis ahead
      obtain ⟨before, last, rfl, ends, goesOn⟩ :=
        inductionHypothesis others (Nat.max_le.mpr ⟨early, wakes⟩) (by omega)
      refine ⟨poll :: before, last, rfl, ends, List.forall_mem_cons.mpr ⟨?_, goesOn⟩⟩
      generalize found : poll.found = result at decision
      cases decision with
      | paused result unsettled _ harmless =>
          rintro (settled | fatal | due)
          · rw [found, unsettled] at settled
            cases settled
          · rw [found, harmless] at fatal
            cases fatal
          · exact absurd due (Nat.ne_of_lt ahead)

end Course

end Watch

namespace Client

variable (client : Client σ)

/-- A poll of a wait, the decision behind it, and the rest. -/
theorem run_watch_succ
    {hash : Hash}
    {world behind : World σ}
    {found : Poll}
    (polled : (client.poll none hash).run world = (some found, behind))
    (deadline fuel : Nat)
    (watch : Watch) :
    (client.watch hash deadline none (fuel + 1) watch).run world =
      match watch.decide client.config.confirmation deadline behind.now found with
      | .finish outcome => (some outcome, behind)
      | .pause wake next =>
          (client.watch hash deadline none fuel next).run
            { behind with now := max behind.now wake } := by
  rw [Client.watch, OptionT.run_bind, Option.elimM, Process.bind_apply, polled]
  change
    (match watch.decide client.config.confirmation deadline behind.now found with
      | .finish outcome => pure outcome
      | .pause wake next => do
          (Process.sleepUntil wake).unlessCancelled none
          client.watch hash deadline none fuel next : OptionT (Process σ) Outcome).run behind = _
  cases watch.decide client.config.confirmation deadline behind.now found with
  | finish outcome => rfl
  | pause wake next => rfl

/-- A wait that may make as many polls as there is time for comes to the same with more of them. -/
theorem run_watch_of_enough
    {client : Client σ}
    (paced : 1 ≤ client.config.confirmation.pollInterval)
    (instant : client.ledger.IsInstant)
    (hash : Hash)
    (deadline fuel more : Nat)
    (watch : Watch)
    (world : World σ)
    (enough :
      (deadline - world.now) ⌈/⌉ client.config.confirmation.pollInterval + 1 ≤ fuel) :
    (client.watch hash deadline none (fuel + more) watch).run world =
      (client.watch hash deadline none fuel watch).run world := by
  induction fuel generalizing watch world with
  | zero =>
      exact absurd enough (Nat.not_succ_le_zero _)
  | succ fuel inductionHypothesis =>
      obtain ⟨found, behind, polled, same⟩ := client.exists_poll instant hash world
      rw [Nat.add_right_comm, client.run_watch_succ polled, client.run_watch_succ polled]
      have decision := watch.decision_decide client.config.confirmation deadline behind.now found
      cases decided : watch.decide client.config.confirmation deadline behind.now found with
      | finish outcome =>
          rfl
      | pause wake next =>
          rw [decided] at decision
          have fewer := (decision.fewer paced).2
          rw [← same] at enough
          exact inductionHypothesis next { behind with now := max behind.now wake }
            (Nat.le_trans fewer (Nat.le_of_succ_le_succ enough))

/-- A wait is its row of polls from the start, with the outcome that they come to. -/
theorem run_watch_start
    (handle : Handle)
    (timeout : Nat)
    (world : World σ) :
    (client.watch handle.hash (world.now + timeout) none (client.pollLimit timeout) .start).run
        world =
      (some (client.await handle timeout world).1.outcome,
        (client.await handle timeout world).2) := by
  have polled :=
    client.yields_watch_of
      (client.pollsSteadily_always handle.hash (world.now + timeout)) (client.pollLimit timeout)
      .start world trivial
  obtain ⟨-, -, -, outcome, result, -⟩ := polled
  refine Prod.ext ?_ rfl
  change _ = some (((client.watch _ _ none _ .start).run world).1.getD .timedOut)
  rw [result]
  rfl

/--
Over a ledger that answers at once, a wait ends by its deadline, whatever it is answered. It polls
once at least, and at most once for each poll interval in its timeout, begun ones counted, and once
more. Its last poll is the first that settles it, fails for good or is made at the deadline. More
polls to spare would change nothing, and without any timeout there is one poll and no pause.
-/
theorem await_punctual
    (handle : Handle)
    (timeout : Nat)
    (world : World σ)
    (paced : 1 ≤ client.config.confirmation.pollInterval)
    (instant : client.ledger.IsInstant) :
    let deadline := world.now + timeout
    let most := timeout ⌈/⌉ client.config.confirmation.pollInterval + 1
    let wait := client.await handle timeout world
    (∀ limit, most ≤ limit →
        (client.watch handle.hash deadline none limit .start).run world =
          (some wait.1.outcome, wait.2)) ∧
      wait.2.now ≤ deadline ∧
      ∃ polls : List PollRecord,
        wait.2.history = world.history ++ polls.flatMap PollRecord.exchanges ∧
          (∀ poll ∈ polls,
            poll.Made client.config.confirmation handle.hash ∧ poll.IsInstant) ∧
          1 ≤ polls.length ∧
          polls.length ≤ most ∧
          (∃ before last,
            polls = before ++ [last] ∧
              last.Ends deadline ∧ ∀ poll ∈ before, ¬ poll.Ends deadline) ∧
          (timeout = 0 → polls.length = 1 ∧ wait.2.now = world.now) := by
  intro deadline most wait
  have fits := ceilDiv_lt_pollLimit paced timeout
  have left : deadline - world.now = timeout := Nat.add_sub_cancel_left _ _
  refine ⟨fun limit roomy => ?_, ?_⟩
  · have spare (polls : Nat) (room : most ≤ polls) :
        (client.watch handle.hash deadline none polls .start).run world =
          (client.watch handle.hash deadline none most .start).run world := by
      obtain ⟨more, rfl⟩ := Nat.exists_eq_add_of_le room
      exact run_watch_of_enough paced instant handle.hash deadline most more .start world
        (by rw [left])
    exact (spare limit roomy).trans
      ((spare _ fits).symm.trans (client.run_watch_start handle timeout world))
  · have steadily :=
      client.pollsSteadily_of_isInstant instant handle.hash world.now deadline
    obtain ⟨_, added, -, -, polls, rfl, course, takeNoTime, begun, inTime⟩ :=
      client.yields_await_of steadily ⟨Nat.le_refl _, Nat.le_add_right _ _⟩
    have counted := course.length_le paced takeNoTime
    have last := course.ends paced takeNoTime (Nat.le_add_right _ _) (by rw [left]; exact fits)
    have polled : 1 ≤ polls.length := by
      obtain ⟨before, last, rfl, -⟩ := last
      simp
    rw [left] at counted
    have made poll (member : poll ∈ polls) := And.intro (course.made poll member)
      (takeNoTime poll member)
    refine ⟨inTime, polls, added, made, polled, counted, last, ?_⟩
    rintro rfl
    rw [zero_ceilDiv, Nat.zero_add] at counted
    exact ⟨Nat.le_antisymm counted polled, Nat.le_antisymm inTime begun⟩

end Client

/-- A wait with lost connections keeps its pace, and a shorter pause brings it to its deadline. -/
theorem flakyLedger_polls :
    let client : Client Unit :=
      { ledger := flakyLedger
        config := { confirmation := { pollInterval := 300, confirmations := 3 } } }
    let wait := client.await ⟨1, "write", none, none⟩ 1000 (World.start ())
    1 ≤ client.config.confirmation.pollInterval ∧
      client.ledger.IsInstant ∧
      wait.2.now ≤ 1000 ∧
      (client.watch 1 1000 none 5 .start).run (World.start ()) = (some wait.1.outcome, wait.2) ∧
      (wait.2.history.map Exchange.time).dedup = [0, 300, 600, 900, 1000] := by
  have paced : 1 ≤ 300 := by decide
  have instant : flakyLedger.IsInstant := fun _ _ _ => rfl
  obtain ⟨enough, inTime, -⟩ :=
    Client.await_punctual
      { ledger := flakyLedger
        config := { confirmation := { pollInterval := 300, confirmations := 3 } } }
      ⟨1, "write", none, none⟩ 1000 (World.start ()) paced instant
  exact ⟨paced, instant, inTime, enough 5 (by decide), by decide +kernel⟩

end ContractGateway
