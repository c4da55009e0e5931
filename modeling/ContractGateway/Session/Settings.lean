import ContractGateway.Session.Reads

/-!
# Steps about settings

Steps that register settings, list them, read all of them in a batch, and make the arguments of
proposals.
-/

namespace ContractGateway

/-- A step about settings. -/
inductive SettingStep where
  | register (contract path : String) (kind : SettingKind)
  | all
  | get (path : String)
  | ofKind (kind : SettingKind)
  | ofType (type : ProposalType)
  | enqueueAll (batch name : String)
  | collect (pending results : String)
  | proposalArguments (path : String) (value : SettingValue)

/-- What a step about settings answers. -/
inductive SettingReply where
  /-- The step names something that is not there. -/
  | unnamed
  | names (values : List String)
  | entry (entry : Option SettingEntry)
  | entries (entries : List SettingEntry)
  /-- The length of the batch that settings were enqueued into. -/
  | length (value : Nat)
  | collected (values : List (String × SettingValue))
  | arguments (values : List AbiValue)

namespace Session

/-- Performs a step about settings. -/
def performSetting : SettingStep → Act SettingReply
  | .register contract path kind => do
      let contract ← contractOf contract
      let session ← get
      let (outcome, settings) := session.settings.register contract path kind
      set { session with settings }
      return .entry (some (← liftResult outcome))
  | .all => do
      return .entries (← get).settings.entries
  | .get path => do
      return .entry ((← get).settings.get path)
  | .ofKind kind => do
      return .names (((← get).settings.ofKind kind).map (·.path))
  | .ofType type => do
      return .names (((← get).settings.ofType type).map (·.path))
  | .enqueueAll name pendingName => do
      let session ← get
      match session.batches.lookup name with
      | none => return .unnamed
      | some batch =>
          let (outcome, batch) := session.settings.enqueueAll batch
          keepBatch name batch
          let pending ← liftResult outcome
          modify fun session =>
            { session with pending := (pendingName, pending) :: session.pending }
          return .length batch.requests.length
  | .collect pending results => do
      let session ← get
      match session.pending.lookup pending, session.results.lookup results with
      | some pending, some results =>
          return .collected (← liftResult (Settings.collect pending results))
      | _, _ => return .unnamed
  | .proposalArguments path value => do
      match (← get).settings.get path with
      | none => return .unnamed
      | some entry => return .arguments (← liftResult (entry.proposalArguments value))

end Session

end ContractGateway
