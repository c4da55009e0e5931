import ContractGateway.Proofs.Auction.Predictions

/-!
# Scenarios on a ledger with a history

A scenario that is run behind others fails at the same bid as it does on a new ledger, but its
verdicts need not be the same. A bid that this run does not send is found to be unreported when an
earlier scenario has sent the same call (`Scenario.run_after`), because sent bids are told by their
calls alone. That is all that the earlier scenarios can change.
-/

namespace ContractGateway

namespace Auction

namespace Scenario

/-- Runs scenarios, one after the other. -/
def runAll
    (client : Client Memory.State)
    (auction : Contract) : List Scenario → Process Memory.State Unit
  | [] => return ()
  | scenario :: rest => do
      let _ ← scenario.run client auction
      runAll client auction rest

/-- Scenarios inject no failures. -/
theorem calm_run
    (sender : Option Address)
    (config : Config)
    (scenario : Scenario)
    {world : World Memory.State}
    (calm : world.ledger.IsCalm) :
    (scenario.run (Memory.client sender config) manager world).2.ledger.IsCalm := by
  have continues :=
    (Memory.client sender config).develops_submitSequence (Memory.State.develops_continues sender)
      scenario.policy scenario.timeout scenario.bids (scenario.prepared world)
  rw [(run_manager (Memory.client sender config) scenario world).2]
  exact continues.calm (calm_prepared calm)

theorem calm_runAll
    (sender : Option Address)
    (config : Config)
    (scenarios : List Scenario)
    {world : World Memory.State}
    (calm : world.ledger.IsCalm) :
    (runAll (Memory.client sender config) manager scenarios world).2.ledger.IsCalm := by
  induction scenarios generalizing world with
  | nil => exact calm
  | cons scenario rest inductionHypothesis =>
      exact inductionHypothesis (calm_run sender config scenario calm)

/-- The verdict on a bid that a history has sent before, when the bid is not sent again. -/
def mistaken (before : List Memory.Sent) (index : Nat) (verdict : Verdict) : Verdict :=
  if verdict.actual = .notSubmitted ∧ before.any (·.call = callOf (bid index)) then
    { verdict with actual := .unreported }
  else verdict

theorem mistaken_eq_self (before : List Memory.Sent) (index : Nat) (verdict : Verdict) :
    mistaken before index verdict = verdict ↔
      (verdict.actual = .notSubmitted →
        before.any (·.call = callOf (bid index)) = false) := by
  obtain ⟨name, expected, actual⟩ := verdict
  unfold mistaken
  split
  case isTrue known =>
    obtain ⟨rfl, sent⟩ := known
    simp [sent]
  case isFalse unknown =>
    simp only [true_iff]
    exact fun unsent => Bool.eq_false_iff.mpr fun sent => unknown ⟨unsent, sent⟩

/--
Behind other scenarios, of whatever kind, a scenario fails where it fails on a new ledger, and the
verdicts differ in this only: an unsent bid is found to be unreported when an earlier scenario has
sent it. So the verdicts are the same exactly when no earlier scenario has sent an unsent bid.
-/
theorem run_after
    (sender : Option Address)
    (config : Config)
    {scenario : Scenario}
    (plain : ∀ step ∈ scenario.steps, step.action.isPlain = true)
    (small : scenario.steps.length ≤ 2 ^ 256)
    {world : World Memory.State}
    (calm : world.ledger.IsCalm)
    (fresh : world.ledger.sent = [])
    (distinct :
      ((scenario.run (Memory.client sender config) manager world).2.ledger.sent.map
        (·.hash)).Nodup)
    (earlier : List Scenario)
    (distinctThen :
      ((scenario.run (Memory.client sender config) manager
        (runAll (Memory.client sender config) manager earlier world).2).2.ledger.sent.map
          (·.hash)).Nodup) :
    let later := (runAll (Memory.client sender config) manager earlier world).2
    ∃ alone behind,
      (scenario.run (Memory.client sender config) manager world).1.2 = .ok alone ∧
        (scenario.run (Memory.client sender config) manager later).1.2 = .ok behind ∧
        behind.failedAt = alone.failedAt ∧
        behind.verdicts = alone.verdicts.mapIdx (mistaken later.ledger.sent) ∧
        (behind.verdicts = alone.verdicts ↔
          ∀ index verdict, alone.verdicts[index]? = some verdict →
            verdict.actual = .notSubmitted →
              later.ledger.sent.any (·.call = callOf (bid index)) = false) := by
  intro later
  obtain ⟨alone, found, failedAt, verdicts⟩ := run_fates sender config plain small calm distinct
  obtain ⟨behind, foundThen, failedAtThen, verdictsThen⟩ :=
    run_fates sender config plain small (calm_runAll sender config earlier calm) distinctThen
  have mistakes : behind.verdicts = alone.verdicts.mapIdx (mistaken later.ledger.sent) := by
    rw [verdicts, verdictsThen, List.mapIdx_mapIdx]
    refine congrArg (List.mapIdx · scenario.steps) (funext₂ fun index step => ?_)
    simp only [Function.comp, mistaken, fate, fresh, List.any_nil, Bool.false_eq_true, and_false,
      if_false]
    split <;> rfl
  refine ⟨alone, behind, found, foundThen, failedAtThen.trans failedAt.symm, mistakes, ?_⟩
  rw [mistakes, List.mapIdx_eq_iff]
  refine forall_congr' fun index => ?_
  cases alone.verdicts[index]? with
  | none => simp
  | some verdict => simpa using eq_comm.trans (mistaken_eq_self later.ledger.sent index verdict)

/-- Two bids that are confirmed. -/
def twoBids : Scenario where
  name := "two bids"
  steps := [⟨"first", .confirm, .confirmed⟩, ⟨"second", .confirm, .confirmed⟩]

/-- A bid that is refused, and the bid on the next lot that is not sent for that. -/
def refusedFirst : Scenario where
  name := "refused first"
  steps :=
    [⟨"refused", .revertInSimulation "closed", .failed⟩, ⟨"behind it", .confirm, .notSubmitted⟩]

/-- The two bids are sent, and nothing is sent behind a bid that is refused. -/
theorem sent_behind_twoBids :
    (refusedFirst.run (Memory.client (some usualSender) {}) manager fixture).2.ledger.sent = [] ∧
      (refusedFirst.run (Memory.client (some usualSender) {}) manager
          (runAll (Memory.client (some usualSender) {}) manager [twoBids]
            fixture).2).2.ledger.sent =
        (runAll (Memory.client (some usualSender) {}) manager [twoBids] fixture).2.ledger.sent ∧
      ((runAll (Memory.client (some usualSender) {}) manager [twoBids] fixture).2.ledger.sent.map
        (·.hash)).Nodup ∧
      (runAll (Memory.client (some usualSender) {}) manager [twoBids] fixture).2.ledger.sent.map
        (·.call) = [callOf (bid 0), callOf (bid 1)] := by
  decide +kernel

/-- No hash occurs twice, on the new ledger or behind the two bids. -/
theorem distinct_refusedFirst :
    ((refusedFirst.run (Memory.client (some usualSender) {}) manager fixture).2.ledger.sent.map
        (·.hash)).Nodup ∧
      ((refusedFirst.run (Memory.client (some usualSender) {}) manager
        (runAll (Memory.client (some usualSender) {}) manager [twoBids]
          fixture).2).2.ledger.sent.map (·.hash)).Nodup := by
  obtain ⟨nothing, nothingElse, distinct, -⟩ := sent_behind_twoBids
  rw [nothing, nothingElse]
  exact ⟨List.nodup_nil, distinct⟩

theorem run_after_twoBids :
    ∃ alone behind,
      (refusedFirst.run (Memory.client (some usualSender) {}) manager fixture).1.2 = .ok alone ∧
        (refusedFirst.run (Memory.client (some usualSender) {}) manager
          (runAll (Memory.client (some usualSender) {}) manager [twoBids] fixture).2).1.2 =
            .ok behind ∧
        behind.failedAt = alone.failedAt ∧
        behind.verdicts =
          alone.verdicts.mapIdx
            (mistaken
              (runAll (Memory.client (some usualSender) {}) manager [twoBids]
                fixture).2.ledger.sent) := by
  obtain ⟨alone, behind, found, foundThen, failedAt, verdicts, -⟩ :=
    run_after (some usualSender) {} (by decide) (by decide) calm_fixture rfl distinct_refusedFirst.1
      [twoBids] distinct_refusedFirst.2
  exact ⟨alone, behind, found, foundThen, failedAt, verdicts⟩

/-- The second bid is sent in neither run, but only the first of the two runs finds that out. -/
theorem run_refusedFirst_differs :
    ∃ alone behind,
      (refusedFirst.run (Memory.client (some usualSender) {}) manager fixture).1.2 = .ok alone ∧
        (refusedFirst.run (Memory.client (some usualSender) {}) manager
          (runAll (Memory.client (some usualSender) {}) manager [twoBids] fixture).2).1.2 =
            .ok behind ∧
        alone.verdicts.map (·.actual) = [.failed, .notSubmitted] ∧
        alone.allPassed = true ∧
        behind.verdicts.map (·.actual) = [.failed, .unreported] ∧
        behind.allPassed = false := by
  obtain ⟨-, -, -, calls⟩ := sent_behind_twoBids
  obtain ⟨alone, found, -, verdicts⟩ :=
    run_fates (some usualSender) {} (by decide) (by decide) calm_fixture distinct_refusedFirst.1
  obtain ⟨behind, foundThen, -, verdictsThen⟩ :=
    run_fates (some usualSender) {} (by decide) (by decide)
      (calm_runAll (some usualSender) {} [twoBids] calm_fixture) distinct_refusedFirst.2
  generalize
    (runAll (Memory.client (some usualSender) {}) manager [twoBids] fixture).2 = later at *
  have sentBefore : later.ledger.sent.any (·.call = callOf (bid 1)) = true := by
    have listed := congrArg (List.any · (· = callOf (bid 1))) calls
    rw [List.any_map] at listed
    exact listed.trans (by simp)
  have first : refusedFirst.fate 1 later.ledger.sent 0 = .failed := by
    rw [fate]
    exact if_neg fun mistake => absurd mistake.1 (by decide)
  have second : refusedFirst.fate 1 later.ledger.sent 1 = .unreported := by
    rw [fate]
    exact if_pos ⟨rfl, sentBefore⟩
  change
    behind.verdicts =
      [⟨"refused", .failed, refusedFirst.fate 1 later.ledger.sent 0⟩,
        ⟨"behind it", .notSubmitted, refusedFirst.fate 1 later.ledger.sent 1⟩]
    at verdictsThen
  rw [first, second] at verdictsThen
  refine ⟨alone, behind, found, foundThen, ?_, ?_, ?_, ?_⟩
  · rw [verdicts]
    rfl
  · rw [ScenarioReport.allPassed, verdicts]
    rfl
  · rw [verdictsThen]
    rfl
  · rw [ScenarioReport.allPassed, verdictsThen]
    rfl

end Scenario

end Auction

end ContractGateway
