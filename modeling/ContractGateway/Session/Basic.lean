import ContractGateway.Session.Settings

/-!
# Sessions

A session is a script of steps for one client: the ledger behind it is a scripted one, and its
contracts are looked up by name in a registry. Steps script the ledger, look contracts up, read
in batches, register settings, and prepare and send writes; what they produce is kept under
names for later steps. A failed step does not end the session.
-/

namespace ContractGateway

/-- A step that scripts the ledger or lets time pass. -/
inductive ScriptStep where
  | change (change : Scripted.Change)
  | read (contract method : String) (arguments : List AbiValue) (block : Option Nat)
      (outcome : CallOutcome)
  | call (call : ReadCall) (block : Option Nat) (outcome : CallOutcome)
  | write (write : String) (script : Scripted.WriteScript)
  | sleep (span : Nat)

/-- A step of a session. -/
inductive SessionStep where
  | script (step : ScriptStep)
  | lookup (step : LookupStep)
  | read (step : ReadStep)
  | setting (step : SettingStep)
  | prepare (contract method : String) (arguments : List AbiValue) (options : SigningOptions)
      (name : String)
  | buildWrite (read : ReadSpec) (setter : Option String) (value : read.type.Value)
      (options : SigningOptions) (name : String)
  | write (step : WriteStep)

/-- What a step answers. -/
inductive SessionReply where
  | done
  /-- The step names something that is not there. -/
  | unnamed
  | failed (error : GatewayError)
  | lookup (reply : LookupReply)
  | read (reply : ReadReply)
  | setting (reply : SettingReply)
  | write (reply : WriteReply)

namespace Session

/-- Performs a step that scripts the ledger or lets time pass; false when a name is missing. -/
def performScript : ScriptStep → Act Bool
  | .change change => do
      modifyLedger (·.apply change)
      return true
  | .read contract method arguments block outcome => do
      let contract ← contractOf contract
      let calldata ← liftResult (contract.encodeCall method arguments)
      modifyLedger fun state =>
        { state with reads := ⟨⟨contract.address, calldata⟩, block, outcome⟩ :: state.reads }
      return true
  | .call call block outcome => do
      modifyLedger fun state => { state with reads := ⟨call, block, outcome⟩ :: state.reads }
      return true
  | .write write script => do
      match (← get).book.writes.lookup write with
      | none => return false
      | some write =>
          modifyLedger fun state =>
            { state with writes := (⟨write.target, write.calldata⟩, script) :: state.writes }
          return true
  | .sleep span => do
      liftProcess (Process.sleep span)
      return true

/-- Keeps a prepared write and shows it. -/
def keepWrite (name : String) (write : PreparedWrite) : Act SessionReply := do
  modify fun session => { session with book := session.book.prepare name write }
  return .write (.prepared write)

/-- Performs a step. -/
def perform (client : Client Scripted.State) : SessionStep → Act SessionReply
  | .script step => return if ← performScript step then .done else .unnamed
  | .lookup step => return .lookup (← performLookup step)
  | .read step => return .read (← performRead client step)
  | .setting step => return .setting (← performSetting step)
  | .prepare contract method arguments options name => do
      let contract ← contractOf contract
      keepWrite name (← liftResult (contract.prepare method arguments options))
  | .buildWrite read setter value options name => do
      let contract ← contractOf read.contract
      let field ← liftResult (fieldOf contract read)
      let field ←
        match setter with
        | none => pure field
        | some setter => liftResult (field.withSetter setter)
      keepWrite name (← liftResult (field.write value options))
  | .write step => do
      let session ← get
      let (reply, book) ← liftProcess (session.book.perform client step)
      set { session with book }
      return .write reply

/-- The reply to a step, whether or not it fails. -/
def reply
    (client : Client Scripted.State)
    (step : SessionStep)
    (session : Session) : Process Scripted.State (SessionReply × Session) := do
  let (outcome, session) ← ((perform client step).run).run session
  match outcome with
  | .ok reply => return (reply, session)
  | .error error => return (.failed error, session)

/-- The answers to steps, one after the other. -/
def run (client : Client Scripted.State) :
    List SessionStep → Session → World Scripted.State → List (StepAnswer SessionReply)
  | [], _, _ => []
  | step :: rest, session, world =>
      let (answer, world) := (reply client step session).answered world
      let (reply, session) := answer.reply
      ⟨reply, answer.exchanges, answer.moved⟩ :: run client rest session world

end Session

end ContractGateway
