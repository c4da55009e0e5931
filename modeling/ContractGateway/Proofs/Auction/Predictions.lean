import ContractGateway.Proofs.Auction.Fates
import ContractGateway.Session.Auction
import Mathlib.Tactic.IntervalCases

/-!
# Predicting a scenario

On a ledger that has accepted nothing yet, and where one block is enough for a confirmation, the
actions of a scenario and its policy foretell the fate of each bid (`Scenario.run_foretold`).
-/

namespace ContractGateway

namespace Auction

/-- The world of a new session on an auction. -/
def fixture : World Memory.State := World.start { head := startingBlock }

theorem calm_fixture : fixture.ledger.IsCalm := ⟨rfl, rfl⟩

/--
The fate that the actions foretell for the bid at an index. One at a time, the first bid that is not
to be confirmed fails, and nothing is sent behind it. All at once, the bids in front of the first
refused one are sent, and the failing one is among them unless all of them are to be confirmed.
-/
def Fate.foretold (policy : SequencePolicy) (actions : List Action) (index : Nat) : Fate :=
  match policy with
  | .sequential =>
      let failing := actions.findIdx (· ≠ .confirm)
      if index < failing then .confirmed
      else if index = failing then .failed
      else .notSubmitted
  | .parallel =>
      let refused := actions.findIdx Action.isRefused
      match (actions.take refused).findIdx? (· ≠ .confirm) with
      | some failing =>
          if index < failing then .confirmed
          else if index = failing then .failed
          else if index < refused then .unreported
          else .notSubmitted
      | none =>
          if index < refused then .confirmed
          else if index = refused then .failed
          else .notSubmitted

/-- A refused bid is not to be confirmed, so the foretold fates are the due ones. -/
theorem Fate.foretold_eq_due (policy : SequencePolicy) (actions : List Action) (index : Nat) :
    foretold policy actions index =
      due policy (actions.findIdx (· ≠ .confirm)) (actions.findIdx Action.isRefused) index := by
  have sooner : actions.findIdx (· ≠ .confirm) ≤ actions.findIdx Action.isRefused := by
    refine List.findIdx_le_findIdx fun action _ refused => decide_eq_true ?_
    rintro rfl
    cases refused
  have within : actions.findIdx Action.isRefused ≤ actions.length := List.findIdx_le_length
  cases policy with
  | sequential => rfl
  | parallel =>
      simp only [foretold, due]
      generalize listed : (actions.take (actions.findIdx Action.isRefused)).findIdx?
        (· ≠ .confirm) = found
      cases found with
      | some failing =>
          obtain ⟨-, first⟩ := List.findIdx?_eq_some_iff_findIdx_eq.mp listed
          rw [List.findIdx_take, Nat.min_eq_right sooner] at first
          rw [first]
      | none =>
          have first := List.findIdx?_eq_none_iff_findIdx_eq.mp listed
          rw [List.findIdx_take, Nat.min_eq_right sooner, List.length_take_of_le within] at first
          rw [first]
          by_cases sent : index < actions.findIdx Action.isRefused <;> simp [sent]

namespace Scenario

/--
On a ledger that has accepted nothing, every bid of a scenario meets the fate that is foretold by
the actions and the policy, and the scenario passes exactly when these are the expected fates. The
lots are numbered by words of 256 bits, and so there are at most that many bids.
-/
theorem run_foretold
    (sender : Option Address)
    {config : Config}
    (single : config.confirmation.confirmations ≤ 1)
    {scenario : Scenario}
    (plain : ∀ step ∈ scenario.steps, step.action.isPlain = true)
    (small : scenario.steps.length ≤ 2 ^ 256)
    {world : World Memory.State}
    (calm : world.ledger.IsCalm)
    (fresh : world.ledger.sent = [])
    (distinct :
      ((scenario.run (Memory.client sender config) manager world).2.ledger.sent.map
        (·.hash)).Nodup) :
    let actions := scenario.steps.map (·.action)
    ∃ report,
      (scenario.run (Memory.client sender config) manager world).1.2 = .ok report ∧
        report.failedAt = actions.findIdx? (· ≠ .confirm) ∧
        report.verdicts =
          (scenario.steps.mapIdx fun index step =>
            ⟨step.name, step.expected, Fate.foretold scenario.policy actions index⟩) ∧
        (report.allPassed = true ↔
          ∀ index step, scenario.steps[index]? = some step →
            step.expected = Fate.foretold scenario.policy actions index) := by
  intro actions
  obtain ⟨report, found, failedAt, verdicts⟩ := run_fates sender config plain small calm distinct
  have required : max config.confirmation.confirmations 1 = 1 := Nat.max_eq_right single
  have unconfirmed :
      (fun action : Action => !action.confirms 1) = fun action => decide (action ≠ .confirm) := by
    funext action
    simp [Action.confirms]
  rw [required] at failedAt verdicts
  have fates (index : Nat) :
      scenario.fate 1 world.ledger.sent index = Fate.foretold scenario.policy actions index := by
    rw [fate, fresh, Fate.foretold_eq_due, unconfirmed]
    simp [actions]
  simp only [fates] at verdicts
  refine ⟨report, found, ?_, verdicts, ?_⟩
  · have length : scenario.steps.length = actions.length := (List.length_map _).symm
    rw [failedAt, unconfirmed, List.findIdx?_eq_guard_findIdx_lt, Option.guard, length]
    simp [actions]
  · rw [ScenarioReport.allPassed, verdicts, List.all_eq_true]
    constructor
    · intro passed index step holds
      obtain ⟨within, rfl⟩ := List.getElem?_eq_some_iff.mp holds
      have own : Verdict.passed ⟨_, scenario.steps[index].expected, _⟩ = true :=
        passed _ (List.mem_mapIdx.mpr ⟨index, within, rfl⟩)
      exact (of_decide_eq_true own).symm
    · intro expected verdict member
      obtain ⟨index, within, rfl⟩ := List.mem_mapIdx.mp member
      exact decide_eq_true (expected index _ (List.getElem?_eq_getElem within)).symm

/-- Three bids that are submitted at once, the last of which is refused. -/
def stalledAtOnce : Scenario where
  name := "stalled at once"
  policy := .parallel
  timeout := 0
  steps :=
    [⟨"stalled", .neverMined, .failed⟩, ⟨"behind it", .confirm, .unreported⟩,
      ⟨"refused", .revertInSimulation "closed", .notSubmitted⟩]

theorem run_foretold_on_stalledAtOnce :
    ∃ report,
      (stalledAtOnce.run (Memory.client (some usualSender) {}) manager fixture).1.2 = .ok report ∧
        report.failedAt = some 0 ∧ report.allPassed = true := by
  have distinct :
      ((stalledAtOnce.run (Memory.client (some usualSender) {}) manager
        fixture).2.ledger.sent.map (·.hash)).Nodup := by
    decide +kernel
  obtain ⟨report, found, failedAt, -, passes⟩ :=
    run_foretold (some usualSender) (Nat.le_refl 1) (by decide) (by decide) calm_fixture rfl
      distinct
  refine ⟨report, found, failedAt, passes.mpr fun index step holds => ?_⟩
  obtain ⟨within, rfl⟩ := List.getElem?_eq_some_iff.mp holds
  change index < 3 at within
  interval_cases index <;> rfl

end Scenario

end Auction

end ContractGateway
