import ContractGateway.Session.State

/-!
# Steps about contracts

Steps that look contracts up by name, alone, in order or side by side, and that look at the
registry. Identities are numbered in the order in which the session first sees them.
-/

namespace ContractGateway

/-- A step about contracts. -/
inductive LookupStep where
  | add (contract : Contract)
  | get (name : String)
  | getAll (names : List String)
  | getJoined (names : List String)
  | isCached (name : String)
  | invalidate (name : String)
  | describe
  | resolvedNames

/-- What a step about contracts answers. -/
inductive LookupReply where
  | done
  | flag (value : Bool)
  | text (value : String)
  | names (values : List String)
  /-- A contract with the number of its identity. -/
  | contract (number : Nat) (contract : Contract)
  | contracts (values : List (Nat × Contract))
  | lookups (values : List (Except GatewayError (Nat × Contract)))

namespace Session

/-- Looks names up side by side, which takes the time of the resolver calls. -/
def lookUp (names : List String) : Act (List (Except GatewayError Identity)) := do
  let session ← get
  let (found, registry, elapsed) := session.registry.getJoined session.resolver names
  set { session with registry }
  liftProcess (Process.sleep elapsed)
  return found

/-- The identity of a name. -/
def identityOf (name : String) : Act Identity := do
  match ← lookUp [name] with
  | [found] => liftResult found
  | _ => throw (.unknownContract name "")

/-- The contract of a name. -/
def contractOf (name : String) : Act Contract := return (← identityOf name).contract

/-- The identities of names, one after the other; the first that fails ends the lookups. -/
def identitiesOf : List String → Act (List Identity)
  | [] => return []
  | name :: rest => do
      let identity ← identityOf name
      let identities ← identitiesOf rest
      return identity :: identities

/-- The number of an identity: how many others were seen before it. -/
def numberOf (identity : Identity) : Act Nat := do
  let session ← get
  match session.seen.findIdx? (· = identity.serial) with
  | some number => return number
  | none =>
      set { session with seen := session.seen ++ [identity.serial] }
      return session.seen.length

/-- A contract with the number of its identity. -/
def numbered (identity : Identity) : Act (Nat × Contract) :=
  return (← numberOf identity, identity.contract)

/-- The numbers of the lookups that were successful. -/
def numberedLookups :
    List (Except GatewayError Identity) → Act (List (Except GatewayError (Nat × Contract)))
  | [] => return []
  | .error error :: rest => return .error error :: (← numberedLookups rest)
  | .ok identity :: rest => do
      let found ← numbered identity
      return .ok found :: (← numberedLookups rest)

/-- The contracts of names, one after the other. -/
def contractsOf : List String → Act (List Contract)
  | [] => return []
  | name :: rest => do
      let contract ← contractOf name
      let contracts ← contractsOf rest
      return contract :: contracts

/-- Performs a step about contracts. -/
def performLookup : LookupStep → Act LookupReply
  | .add contract => do
      modify fun session => { session with resolver := session.resolver.add contract }
      return .done
  | .get name => do
      let (number, contract) ← numbered (← identityOf name)
      return .contract number contract
  | .getAll names => do
      let identities ← identitiesOf names
      return .contracts (← identities.mapM numbered)
  | .getJoined names => do
      return .lookups (← numberedLookups (← lookUp names))
  | .isCached name => do
      return .flag ((← get).registry.isCached name)
  | .invalidate name => do
      let session ← get
      set { session with registry := session.registry.invalidate name }
      return .flag (session.registry.hasCell name)
  | .describe => do
      return .text (← get).registry.describe
  | .resolvedNames => do
      return .names (← get).registry.resolvedNames

end Session

end ContractGateway
