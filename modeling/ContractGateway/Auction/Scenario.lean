import ContractGateway.Auction.Contracts
import ContractGateway.Ledger.Memory
import ContractGateway.Transaction.Sequence

/-!
# Sequence scenarios

A scenario is a sequence of bids, each with the way the in-memory ledger treats it and the fate
it is expected to meet. Running a scenario scripts the bids, submits them as one sequence,
compares each step's fate with the expected one, and tells what it does line by line.
-/

namespace ContractGateway

namespace Auction

/-- How the ledger treats a bid. -/
inductive Action where
  | confirm
  | confirmAfter (polls : Nat)
  | revertOnChain
  | revertInSimulation (reason : String)
  | neverMined
  deriving DecidableEq, Repr

/-- What becomes of a bid. -/
inductive Fate where
  /-- Reported as confirmed. -/
  | confirmed
  /-- The step that the sequence failed at. -/
  | failed
  /-- Never sent. -/
  | notSubmitted
  /-- Sent, but not reported. -/
  | unreported
  deriving DecidableEq, Repr

namespace Action

/-- The behavior that the ledger is given. -/
def behavior : Action → Memory.Behavior
  | .confirm => .confirm
  | .confirmAfter polls => .confirmAfter polls
  | .revertOnChain => .revertOnChain
  | .revertInSimulation reason => .revertInSimulation reason
  | .neverMined => .neverMined

/-- The description of an action. -/
def describe : Action → String
  | .confirm => "Confirm"
  | .confirmAfter polls => "ConfirmAfter(" ++ toString polls ++ ")"
  | .revertOnChain => "RevertOnChain"
  | .revertInSimulation reason => "RevertInSimulation(" ++ Text.quoted reason ++ ")"
  | .neverMined => "NeverMined"

/-- The fate that a bid with nothing else expected of it should meet. -/
def usualFate : Action → Fate
  | .confirm => .confirmed
  | _ => .failed

end Action

/-- The name of a fate. -/
def Fate.name : Fate → String
  | .confirmed => "Confirmed"
  | .failed => "Failed"
  | .notSubmitted => "NotSubmitted"
  | .unreported => "Unreported"

/-- One bid of a scenario. -/
structure ScenarioStep where
  name : String
  action : Action
  expected : Fate
  deriving DecidableEq, Repr

/-- A sequence of bids with their expected fates. -/
structure Scenario where
  name : String
  description : Option String := none
  policy : SequencePolicy := .sequential
  timeout : Nat := 5000
  steps : List ScenarioStep
  deriving DecidableEq, Repr

/-- The fate of one bid beside the expected one. -/
structure Verdict where
  name : String
  expected : Fate
  actual : Fate
  deriving DecidableEq, Repr

namespace Verdict

/-- Whether the bid met the expected fate. -/
def passed (verdict : Verdict) : Bool := verdict.actual = verdict.expected

/-- The description of a verdict. -/
def describe (verdict : Verdict) : String :=
  Text.record "StepResult"
    [("name", Text.quoted verdict.name),
      ("expected", verdict.expected.name),
      ("actual", verdict.actual.name),
      ("passed", toString verdict.passed)]

end Verdict

/-- What a scenario found. -/
structure ScenarioReport where
  name : String
  /-- The step that the sequence failed at. -/
  failedAt : Option Nat
  verdicts : List Verdict
  /-- The results that the sequence reported. -/
  reported : List TransactionResult
  deriving DecidableEq, Repr

namespace ScenarioReport

/-- Whether every bid met its expected fate. -/
def allPassed (report : ScenarioReport) : Bool := report.verdicts.all Verdict.passed

/-- The complaint about the bids that met another fate, if there are any. -/
def complaint? (report : ScenarioReport) : Option String :=
  if report.allPassed then none
  else
    some ("Scenario '" ++ report.name ++ "' failed: " ++
      Text.bracketed ((report.verdicts.filter (!·.passed)).map Verdict.describe))

end ScenarioReport

/-- A bid that could not be built. -/
structure ScenarioError where
  index : Nat
  cause : GatewayError
  deriving Repr

/-- The wording of a bid that could not be built. -/
def ScenarioError.message (error : ScenarioError) : String :=
  "failed to build step " ++ toString error.index ++ ": " ++ error.cause.message

/-- The bid on a lot. -/
def placeBid (auction : Contract) (index : Nat) : Except GatewayError PreparedWrite :=
  auction.prepare "placeBid" (lotIndex index) {}

/-- The call that a write makes. -/
def callOf (write : PreparedWrite) : ReadCall := ⟨write.target, write.calldata⟩

/-- Gives a write its behavior on the in-memory ledger. -/
def scriptWrite
    (write : PreparedWrite)
    (behavior : Memory.Behavior)
    (state : Memory.State) : Memory.State :=
  { state with writes := (callOf write, behavior) :: state.writes }

/-- Changes the state of the in-memory ledger. -/
def modifyLedger (change : Memory.State → Memory.State) : Process Memory.State Unit :=
  modify fun world => { world with ledger := change world.ledger }

/-- The rule between the parts of what a scenario tells. -/
def rule : String := String.ofList (List.replicate 60 '=')

namespace Scenario

/-- What a scenario tells before anything else. -/
def opening (scenario : Scenario) : List String :=
  ["\n" ++ rule, "Scenario: " ++ scenario.name ++ " (" ++ scenario.policy.name ++ ")"] ++
    (match scenario.description with
      | some text => ["Description: " ++ text]
      | none => []) ++
    [rule ++ "\n"]

/-- What a scenario tells about a bid that it has scripted. -/
def scriptedLine (index : Nat) (step : ScenarioStep) : String :=
  "  [" ++ toString index ++ "] '" ++ step.name ++ "' scripted as " ++ step.action.describe

/-- What a scenario tells about a verdict. -/
def verdictLine (index : Nat) (verdict : Verdict) : String :=
  "  " ++ (if verdict.passed then "PASS" else "FAIL") ++ " [" ++ toString index ++ "] '" ++
    verdict.name ++ "': expected " ++ verdict.expected.name ++ ", got " ++ verdict.actual.name

/-- Builds and scripts the bids from some position on, and tells about each one. -/
def build
    (auction : Contract) :
    (index : Nat) → List ScenarioStep →
      Process Memory.State (List String × Except ScenarioError (List PreparedWrite))
  | _, [] => return ([], .ok [])
  | index, step :: rest => do
      match placeBid auction index with
      | .error cause => return ([], .error ⟨index, cause⟩)
      | .ok write =>
          modifyLedger (scriptWrite write step.action.behavior)
          let (lines, built) ← build auction (index + 1) rest
          return (scriptedLine index step :: lines, built.map (write :: ·))

/-- The fate of the bid at a position. -/
def fateOf
    (failedAt : Option Nat)
    (reported : List TransactionResult)
    (sent : List Memory.Sent)
    (index : Nat)
    (write : PreparedWrite) : Fate :=
  if failedAt = some index then .failed
  else if (reported[index]?.map (·.isConfirmed)).getD false then .confirmed
  else if sent.any (·.call = callOf write) then .unreported
  else .notSubmitted

/-- The verdicts on bids from some position on. -/
def judge
    (fate : Nat → PreparedWrite → Fate) :
    (index : Nat) → List ScenarioStep → List PreparedWrite → List Verdict
  | index, step :: steps, write :: writes =>
      ⟨step.name, step.expected, fate index write⟩ :: judge fate (index + 1) steps writes
  | _, _, _ => []

/-- Runs a scenario against the contract of an auction, with the lines it tells. -/
def run
    (client : Client Memory.State)
    (auction : Contract)
    (scenario : Scenario) :
    Process Memory.State (List String × Except ScenarioError ScenarioReport) := do
  let (scripted, built) ← build auction 0 scenario.steps
  let told := scenario.opening ++ scripted
  match built with
  | .error error => return (told, .error error)
  | .ok writes =>
      let outcome ← client.submitSequence scenario.policy scenario.timeout writes
      let (failedAt, reported, failing) :=
        match outcome with
        | .ok results => (none, results, [])
        | .error failure =>
            (some failure.index, failure.completed,
              ["  sequence failed at step " ++ toString failure.index ++ ": " ++
                failure.cause.message])
      let sent := (← get).ledger.sent
      let verdicts := judge (fateOf failedAt reported sent) 0 scenario.steps writes
      let report : ScenarioReport := ⟨scenario.name, failedAt, verdicts, reported⟩
      let closing :=
        ["\n" ++ rule,
          "Result: " ++ (if report.allPassed then "ALL PASSED" else "SOME FAILED"),
          rule ++ "\n"]
      return (told ++ ["\nSubmitting " ++ toString writes.length ++ " steps..."] ++ failing ++
        ["\nVerifying..."] ++ verdicts.mapIdx verdictLine ++ closing, .ok report)

end Scenario

end Auction

end ContractGateway
