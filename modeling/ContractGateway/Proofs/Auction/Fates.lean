import ContractGateway.Proofs.Auction.Bids
import ContractGateway.Proofs.Ledger.Sequences

/-!
# The fates of the bids of a scenario

The fate that a bid is found to meet depends on the actions of its scenario alone
(`Scenario.run_fates`): on the first bid that is not confirmed, on the first that its dry run
refuses, and on the policy. There is one exception. A bid that was never sent is taken for a sent
one when the ledger has accepted the same call before the scenario was run.
-/

namespace ContractGateway

namespace Auction

namespace Action

/-- The ledger includes the bid at the first query or never. -/
def isPlain : Action → Bool
  | .confirmAfter _ => false
  | _ => true

/-- The dry run of the bid fails. -/
def isRefused : Action → Bool
  | .revertInSimulation _ => true
  | _ => false

/-- The bid is confirmed where so many blocks must hold it. -/
def confirms (required : Nat) (action : Action) : Bool :=
  action = .confirm && required = 1

theorem isAccepted_behavior (action : Action) :
    action.behavior.isAccepted = !action.isRefused := by
  cases action <;> rfl

theorem confirms_behavior {action : Action} (plain : action.isPlain = true) (required : Nat) :
    (action.behavior.isAccepted && action.behavior.succeeds && decide (required = 1)) =
      action.confirms required := by
  cases action with
  | confirmAfter polls => cases plain
  | _ => simp [behavior, Memory.Behavior.isAccepted, Memory.Behavior.succeeds, confirms,
      Memory.Behavior.confirm, Memory.Behavior.revertOnChain, Memory.Behavior.revertInSimulation,
      Memory.Behavior.neverMined]

theorem isPrompt_behavior {action : Action} (plain : action.isPlain = true) :
    action.behavior.IsPrompt := by
  cases action with
  | confirm => exact .inr ⟨true, rfl⟩
  | confirmAfter polls => cases plain
  | revertOnChain => exact .inr ⟨false, rfl⟩
  | revertInSimulation reason => exact .inr ⟨true, rfl⟩
  | neverMined => exact .inl rfl

end Action

/--
The fate that is due to the bid at an index, given the first one that is not confirmed and the first
one that is refused. Only a sequence that submits everything at once sends bids behind the failing
one.
-/
def Fate.due (policy : SequencePolicy) (failing refused index : Nat) : Fate :=
  if index < failing then .confirmed
  else if index = failing then .failed
  else
    match policy with
    | .sequential => .notSubmitted
    | .parallel => if index < refused then .unreported else .notSubmitted

/--
The due fate is found out from the number of the bids that are sent, unless the call of the bid
stands on the ledger already.
-/
theorem Fate.found_eq
    (policy : SequencePolicy)
    (failing refused index : Nat)
    (earlier : Bool) :
    (if index < failing then Fate.confirmed
      else if index = failing then .failed
      else if earlier || decide (index < policy.sends failing refused) then .unreported
      else .notSubmitted) =
      if due policy failing refused index = .notSubmitted ∧ earlier then .unreported
      else due policy failing refused index := by
  unfold due
  rcases Nat.lt_trichotomy index failing with before | rfl | behind
  · simp [before]
  · simp
  · have notBefore : ¬ index < failing := by omega
    have notOwn : index ≠ failing := by omega
    simp only [notBefore, notOwn, if_false]
    cases policy with
    | sequential =>
        have unsent : ¬ index < min (failing + 1) refused := by omega
        cases earlier <;> simp [SequencePolicy.sends, unsent]
    | parallel =>
        by_cases sent : index < refused
        · simp [SequencePolicy.sends, sent]
        · cases earlier <;> simp [SequencePolicy.sends, sent]

namespace Scenario

/-- The bids of a scenario. -/
def bids (scenario : Scenario) : List PreparedWrite :=
  (List.range' 0 scenario.steps.length).map bid

@[simp]
theorem length_bids (scenario : Scenario) : scenario.bids.length = scenario.steps.length := by
  simp [bids]

/-- The ledger with the bids from some index on scripted. -/
def scripted : (index : Nat) → List ScenarioStep → Memory.State → Memory.State
  | _, [], state => state
  | index, step :: rest, state =>
      scripted (index + 1) rest (scriptWrite (bid index) step.action.behavior state)

theorem scripted_eq (index : Nat) (steps : List ScenarioStep) (state : Memory.State) :
    ∃ writes, scripted index steps state = { state with writes } := by
  induction steps generalizing index state with
  | nil => exact ⟨state.writes, rfl⟩
  | cons step rest inductionHypothesis => exact inductionHypothesis (index + 1) _

/-- Building bids scripts all of them, and cannot fail. -/
theorem build_manager
    (index : Nat)
    (steps : List ScenarioStep)
    (world : World Memory.State) :
    ∃ lines,
      build manager index steps world =
        ((lines, .ok ((List.range' index steps.length).map bid)),
          { world with ledger := scripted index steps world.ledger }) := by
  induction steps generalizing index world with
  | nil => exact ⟨[], rfl⟩
  | cons step rest inductionHypothesis =>
      obtain ⟨lines, built⟩ :=
        inductionHypothesis (index + 1)
          { world with ledger := scriptWrite (bid index) step.action.behavior world.ledger }
      refine ⟨scriptedLine index step :: lines, ?_⟩
      rw [build, placeBid_manager]
      simp only [Process.bind_apply]
      change
        (let built := build manager (index + 1) rest
          { world with ledger := scriptWrite (bid index) step.action.behavior world.ledger }
        ((scriptedLine index step :: built.1.1, built.1.2.map (bid index :: ·)), built.2)) = _
      rw [built]
      rfl

theorem behavior_scriptWrite
    (write : PreparedWrite)
    (behavior : Memory.Behavior)
    (state : Memory.State)
    (call : ReadCall) :
    (scriptWrite write behavior state).behavior call =
      if call = callOf write then behavior else state.behavior call := by
  rw [Memory.State.behavior, scriptWrite, List.lookup_cons]
  by_cases same : call = callOf write
  · simp [same]
  · rw [if_neg same, beq_false_of_ne same]
    rfl

/-- The bids on earlier lots are treated as before. -/
theorem behavior_scripted_of_lt
    {index lot : Nat}
    (earlier : lot < index)
    {steps : List ScenarioStep}
    (small : index + steps.length ≤ 2 ^ 256)
    (state : Memory.State) :
    (scripted index steps state).behavior (callOf (bid lot)) =
      state.behavior (callOf (bid lot)) := by
  induction steps generalizing index state with
  | nil => rfl
  | cons step rest inductionHypothesis =>
      rw [List.length_cons] at small
      have different : ¬ callOf (bid lot) = callOf (bid index) := by
        rw [callOf_bid_inj (by omega) (by omega)]
        omega
      rw [scripted, inductionHypothesis (by omega) (by omega), behavior_scriptWrite,
        if_neg different]

/-- Each bid is treated as its step says. -/
theorem behavior_scripted
    {index : Nat}
    {steps : List ScenarioStep}
    (small : index + steps.length ≤ 2 ^ 256)
    (state : Memory.State) :
    (List.range' index steps.length).map (fun lot =>
        (scripted index steps state).behavior (callOf (bid lot))) =
      steps.map (·.action.behavior) := by
  induction steps generalizing index state with
  | nil => rfl
  | cons step rest inductionHypothesis =>
      rw [List.length_cons] at small
      rw [List.length_cons, List.range'_succ, List.map_cons, List.map_cons, scripted,
        inductionHypothesis (by omega), behavior_scripted_of_lt (Nat.lt_succ_self index) (by omega),
        behavior_scriptWrite, if_pos rfl]

/-- The verdicts on bids, step by step. -/
theorem judge_bids
    (fate : Nat → PreparedWrite → Fate)
    (index : Nat)
    (steps : List ScenarioStep) :
    judge fate index steps ((List.range' index steps.length).map bid) =
      steps.mapIdx fun place step =>
        ⟨step.name, step.expected, fate (index + place) (bid (index + place))⟩ := by
  induction steps generalizing index with
  | nil => rfl
  | cons step rest inductionHypothesis =>
      rw [List.length_cons, List.range'_succ, List.map_cons, judge, inductionHypothesis,
        List.mapIdx_cons, Nat.add_zero]
      simp [Nat.add_comm, Nat.add_left_comm]

/-- The world with the bids of the scenario scripted. -/
def prepared (scenario : Scenario) (world : World Memory.State) : World Memory.State :=
  { world with ledger := scripted 0 scenario.steps world.ledger }

/-- The report on what a sequence of the bids answered, given the transactions of the ledger. -/
def reportOn
    (scenario : Scenario)
    (answer : Except SequenceFailure (List TransactionResult))
    (sent : List Memory.Sent) : ScenarioReport where
  name := scenario.name
  failedAt := ContractGateway.failedAt answer
  verdicts :=
    scenario.steps.mapIdx fun index step =>
      ⟨step.name, step.expected,
        fateOf (ContractGateway.failedAt answer) (ContractGateway.reported answer) sent index
          (bid index)⟩
  reported := ContractGateway.reported answer

/-- A scenario scripts its bids, submits them as a sequence, and reports on it. -/
theorem run_manager
    (client : Client Memory.State)
    (scenario : Scenario)
    (world : World Memory.State) :
    let submitted :=
      client.submitSequence scenario.policy scenario.timeout scenario.bids (scenario.prepared world)
    (scenario.run client manager world).1.2 =
        .ok (scenario.reportOn submitted.1 submitted.2.ledger.sent) ∧
      (scenario.run client manager world).2 = submitted.2 := by
  obtain ⟨lines, built⟩ := build_manager 0 scenario.steps world
  intro submitted
  have same :
      client.submitSequence scenario.policy scenario.timeout scenario.bids
        (scenario.prepared world) = submitted := rfl
  rw [run, Process.bind_apply, built]
  obtain ⟨answer, final⟩ := submitted
  simp only [Process.bind_apply]
  change
    client.submitSequence scenario.policy scenario.timeout
      ((List.range' 0 scenario.steps.length).map bid)
      { world with ledger := scripted 0 scenario.steps world.ledger } = (answer, final) at same
  simp only [same]
  have verdicts :=
    judge_bids (fateOf (ContractGateway.failedAt answer) (ContractGateway.reported answer)
      final.ledger.sent) 0 scenario.steps
  simp only [Nat.zero_add] at verdicts
  rw [reportOn, ← verdicts]
  cases answer <;> exact ⟨rfl, rfl⟩

variable {scenario : Scenario}

/-- Scripting the bids changes nothing but the scripts. -/
theorem prepared_eq (scenario : Scenario) (world : World Memory.State) :
    ∃ writes, (scenario.prepared world).ledger = { world.ledger with writes } :=
  scripted_eq 0 scenario.steps world.ledger

theorem calm_prepared {world : World Memory.State} (calm : world.ledger.IsCalm) :
    (scenario.prepared world).ledger.IsCalm := by
  obtain ⟨writes, scripted⟩ := scenario.prepared_eq world
  rw [scripted]
  exact ⟨calm.polls, calm.head⟩

theorem sent_prepared (scenario : Scenario) (world : World Memory.State) :
    (scenario.prepared world).ledger.sent = world.ledger.sent := by
  obtain ⟨writes, scripted⟩ := scenario.prepared_eq world
  rw [scripted]

theorem behaviors_prepared
    (small : scenario.steps.length ≤ 2 ^ 256)
    (world : World Memory.State) :
    scenario.bids.map (fun write => (scenario.prepared world).ledger.behavior (callOf write)) =
      scenario.steps.map (·.action.behavior) := by
  have whole : 0 + scenario.steps.length ≤ 2 ^ 256 := by omega
  rw [← behavior_scripted whole world.ledger, bids, List.map_map]
  rfl

/-- All bids are plain where all actions are. -/
theorem plain_prepared
    (plain : ∀ step ∈ scenario.steps, step.action.isPlain = true)
    (small : scenario.steps.length ≤ 2 ^ 256)
    (world : World Memory.State) :
    ∀ write ∈ scenario.bids, (scenario.prepared world).ledger.Plain write := by
  intro write member
  obtain ⟨lot, -, rfl⟩ := List.mem_map.mp member
  have treatment :
      (scenario.prepared world).ledger.behavior (callOf (bid lot)) ∈
        scenario.steps.map (·.action.behavior) := by
    rw [← behaviors_prepared small world]
    exact List.mem_map_of_mem member
  obtain ⟨step, inside, same⟩ := List.mem_map.mp treatment
  exact ⟨rfl, same ▸ Action.isPrompt_behavior (plain step inside)⟩

/-- What holds of the behaviors of the bids holds of the actions, in the same order. -/
theorem findIdx_bids
    (treated : Memory.Behavior → Bool)
    (expected : Action → Bool)
    (same : ∀ step ∈ scenario.steps, treated step.action.behavior = expected step.action)
    (small : scenario.steps.length ≤ 2 ^ 256)
    (world : World Memory.State) :
    scenario.bids.findIdx (fun write =>
        !treated ((scenario.prepared world).ledger.behavior (callOf write))) =
      (scenario.steps.map (·.action)).findIdx (!expected ·) := by
  have treatments :
      scenario.bids.map (fun write =>
          treated ((scenario.prepared world).ledger.behavior (callOf write))) =
        (scenario.steps.map (·.action)).map expected := by
    calc
      scenario.bids.map _ =
          (scenario.bids.map fun write =>
            (scenario.prepared world).ledger.behavior (callOf write)).map treated := by
        rw [List.map_map]
        rfl
      _ = (scenario.steps.map (·.action.behavior)).map treated := by
        rw [behaviors_prepared small]
      _ = (scenario.steps.map (·.action)).map expected := by
        rw [List.map_map, List.map_map]
        exact List.map_congr_left same
  have found := congrArg (List.findIdx (!·)) treatments
  rwa [List.findIdx_map, List.findIdx_map] at found

/-- The first bid that is not confirmed. -/
theorem findIdx_confirms_bids
    (plain : ∀ step ∈ scenario.steps, step.action.isPlain = true)
    (small : scenario.steps.length ≤ 2 ^ 256)
    (required : Nat)
    (world : World Memory.State) :
    scenario.bids.findIdx (!(scenario.prepared world).ledger.confirms required ·) =
      (scenario.steps.map (·.action)).findIdx (!·.confirms required) :=
  findIdx_bids
    (fun behavior => behavior.isAccepted && behavior.succeeds && decide (required = 1))
    (·.confirms required)
    (fun step member => Action.confirms_behavior (plain step member) required) small world

/-- The first bid that is refused. -/
theorem findIdx_accepts_bids
    (small : scenario.steps.length ≤ 2 ^ 256)
    (world : World Memory.State) :
    scenario.bids.findIdx (!(scenario.prepared world).ledger.accepts ·) =
      (scenario.steps.map (·.action)).findIdx Action.isRefused := by
  have treated :=
    findIdx_bids (·.isAccepted) (!·.isRefused)
      (fun step _ => Action.isAccepted_behavior step.action) small world
  simp only [Bool.not_not] at treated
  exact treated

/-- The fate that is found out for a bid, once the answer accounts for the sequence. -/
theorem fateOf_of_accounts
    {count failing : Nat}
    {answer : Except SequenceFailure (List TransactionResult)}
    (accounts : Accounts count failing answer)
    {index : Nat}
    (within : index < count)
    (sent : List Memory.Sent)
    (write : PreparedWrite) :
    fateOf (failedAt answer) (reported answer) sent index write =
      if index < failing then .confirmed
      else if index = failing then .failed
      else if sent.any (·.call = callOf write) then .unreported
      else .notSubmitted := by
  have failed := accounts.failedAt
  have length := accounts.length
  rw [fateOf, failed]
  rcases Nat.lt_trichotomy index failing with before | rfl | behind
  · have other : ¬ (if failing < count then some failing else none) = some index := by
      split
      · simp only [Option.some.injEq]
        omega
      · simp
    have inside : index < (reported answer).length := by omega
    rw [if_neg other, if_pos before, List.getElem?_eq_getElem inside, Option.map_some,
      accounts.confirmed _ (List.getElem_mem inside)]
    rfl
  · rw [if_pos within, if_pos rfl, if_neg (Nat.lt_irrefl index), if_pos rfl]
  · have other : ¬ (if failing < count then some failing else none) = some index := by
      split
      · simp only [Option.some.injEq]
        omega
      · simp
    have outside : (reported answer)[index]? = none := List.getElem?_eq_none (by omega)
    rw [if_neg other, outside, if_neg (Nat.not_lt.mpr (Nat.le_of_lt behind)),
      if_neg (Nat.ne_of_gt behind)]
    rfl

/-- A bid is among the first ones exactly when its index is among their numbers. -/
theorem any_take_bids
    {sends index : Nat}
    (small : scenario.steps.length ≤ 2 ^ 256)
    (within : index < scenario.steps.length) :
    ((scenario.bids.take sends).map callOf).any (· = callOf (bid index)) =
      decide (index < sends) := by
  have count := scenario.length_bids
  rw [Bool.eq_iff_iff, List.any_eq_true, decide_eq_true_eq]
  constructor
  · rintro ⟨_, member, same⟩
    obtain ⟨_, taken, rfl⟩ := List.mem_map.mp member
    obtain ⟨place, inside, rfl⟩ := List.mem_take_iff_getElem.mp taken
    obtain ⟨early, listed⟩ := Nat.lt_min.mp inside
    have own : scenario.bids[place] = bid place := by simp [bids]
    rw [own, decide_eq_true_eq, callOf_bid_inj (by omega) (by omega)] at same
    exact same ▸ early
  · intro early
    have listed : index < scenario.bids.length := by omega
    have own : scenario.bids[index] = bid index := by simp [bids]
    have taken : bid index ∈ scenario.bids.take sends :=
      List.mem_take_iff_getElem.mpr ⟨index, Nat.lt_min.mpr ⟨early, listed⟩, own⟩
    exact ⟨callOf (bid index), List.mem_map_of_mem taken, decide_eq_true rfl⟩

/-- A bid is on the ledger if it was there before or is among those that were sent. -/
theorem any_sent
    {sent before : List Memory.Sent}
    {sends : Nat}
    (calls :
      sent.map (·.call) = before.map (·.call) ++ (scenario.bids.take sends).map callOf)
    (small : scenario.steps.length ≤ 2 ^ 256)
    {index : Nat}
    (within : index < scenario.steps.length) :
    sent.any (·.call = callOf (bid index)) =
      (before.any (·.call = callOf (bid index)) || decide (index < sends)) := by
  have found := congrArg (List.any · (· = callOf (bid index))) calls
  simp only [List.any_append, any_take_bids small within] at found
  rwa [List.any_map, List.any_map] at found

/--
The fate that a bid is found to meet. A bid that is not sent is taken for a sent one when its call
is among those that the ledger has accepted before.
-/
def fate
    (scenario : Scenario)
    (required : Nat)
    (before : List Memory.Sent)
    (index : Nat) : Fate :=
  let actions := scenario.steps.map (·.action)
  let due :=
    Fate.due scenario.policy (actions.findIdx (!·.confirms required))
      (actions.findIdx Action.isRefused) index
  if due = .notSubmitted ∧ before.any (·.call = callOf (bid index)) then .unreported else due

/-- What a scenario finds out. -/
theorem run_fates
    (sender : Option Address)
    (config : Config)
    (plain : ∀ step ∈ scenario.steps, step.action.isPlain = true)
    (small : scenario.steps.length ≤ 2 ^ 256)
    {world : World Memory.State}
    (calm : world.ledger.IsCalm)
    (distinct :
      ((scenario.run (Memory.client sender config) manager world).2.ledger.sent.map
        (·.hash)).Nodup) :
    let required := max config.confirmation.confirmations 1
    let failing := (scenario.steps.map (·.action)).findIdx (!·.confirms required)
    ∃ report,
      (scenario.run (Memory.client sender config) manager world).1.2 = .ok report ∧
        report.failedAt = (if failing < scenario.steps.length then some failing else none) ∧
        report.verdicts =
          scenario.steps.mapIdx fun index step =>
            ⟨step.name, step.expected, scenario.fate required world.ledger.sent index⟩ := by
  intro required failing
  obtain ⟨found, left⟩ := run_manager (Memory.client sender config) scenario world
  rw [left] at distinct
  obtain ⟨accounts, calls⟩ :=
    Client.submitSequence_of_memory sender config scenario.policy scenario.timeout scenario.bids
      (scenario.prepared world) (calm_prepared calm) (plain_prepared plain small world) distinct
  rw [findIdx_confirms_bids plain small, length_bids] at accounts
  rw [findIdx_confirms_bids plain small, findIdx_accepts_bids small, sent_prepared] at calls
  refine ⟨_, found, accounts.failedAt, ?_⟩
  generalize
    (Memory.client sender config).submitSequence scenario.policy scenario.timeout scenario.bids
      (scenario.prepared world) = submitted at accounts calls
  refine List.ext_getElem (by simp [reportOn]) fun index _ within => ?_
  rw [List.length_mapIdx] at within
  simp only [reportOn, List.getElem_mapIdx]
  rw [fateOf_of_accounts accounts within, any_sent calls small within]
  exact congrArg (Verdict.mk _ _) (Fate.found_eq scenario.policy failing _ index _)

end Scenario

end Auction

end ContractGateway
