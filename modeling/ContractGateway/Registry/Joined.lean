import ContractGateway.Ledger.Basic
import ContractGateway.Registry.Basic

/-!
# Lookups that wait for each other

Lookups that are begun together go on in rounds. In a round each of them gets its turn once, in
order: a resolver call from the round before is answered, and every other lookup advances. A
resolver call takes the same time for every name, so all calls of a round are answered in the
next one, after that time; a resolver without delay answers at once.
-/

namespace ContractGateway

/-- A resolver over a list of contracts, the latest entry of a name first. -/
structure Resolver where
  contracts : List Contract
  /-- The time that a call takes, in milliseconds. -/
  delay : Nat

namespace Resolver

/-- What the resolver answers for a name. -/
def resolve (resolver : Resolver) (name : String) : Except String Resolution :=
  match resolver.contracts.find? (·.name = name) with
  | some contract => .ok ⟨contract.address, contract.methods⟩
  | none => .error ("no contract registered under " ++ name)

/-- The same resolver with a contract replaced or added. -/
def add (resolver : Resolver) (contract : Contract) : Resolver :=
  { resolver with contracts := contract :: resolver.contracts }

end Resolver

namespace Registry

/-- Answers the resolver call of a lookup, if there is one. -/
def answer (resolver : Resolver) (registry : Registry) (lookup : Nat) : Registry :=
  match registry.lookups[lookup]? with
  | some ⟨name, .resolving _⟩ => registry.settle lookup (resolver.resolve name)
  | _ => registry

/-- Whether the resolver call of a lookup has begun and is not answered. -/
def isResolving (registry : Registry) (lookup : Nat) : Bool :=
  match registry.phase? lookup with
  | some (.resolving _) => true
  | _ => false

/-- The turn of one lookup in a round. -/
def turn (resolver : Resolver) (registry : Registry) (lookup : Nat) : Registry :=
  if registry.isResolving lookup then answer resolver registry lookup
  else
    let advanced := registry.advance lookup
    if resolver.delay = 0 then answer resolver advanced lookup else advanced

/-- One round: the turn of each lookup. -/
def round (resolver : Resolver) (registry : Registry) (lookups : List Nat) : Registry :=
  lookups.foldl (turn resolver) registry

/-- Rounds until all lookups have finished, with the time they take. -/
def rounds
    (resolver : Resolver)
    (lookups : List Nat) : (fuel : Nat) → Registry → Registry × Nat
  | 0, registry => (registry, 0)
  | fuel + 1, registry =>
      let registry := registry.round resolver lookups
      if lookups.all fun lookup => (registry.result? lookup).isSome then (registry, 0)
      else
        let (registry, elapsed) := rounds resolver lookups fuel registry
        (registry, elapsed + resolver.delay)

/-- Begins a lookup for each name. -/
def beginAll : List String → Registry → List Nat × Registry
  | [], registry => ([], registry)
  | name :: rest, registry =>
      let (lookup, registry) := registry.begin name
      let (lookups, registry) := beginAll rest registry
      (lookup :: lookups, registry)

/-- Looks names up side by side: the results in order, the registry after, and the time taken. -/
def getJoined
    (registry : Registry)
    (resolver : Resolver)
    (names : List String) : List (Except GatewayError Identity) × Registry × Nat :=
  let (lookups, registry) := beginAll names registry
  let (registry, elapsed) := rounds resolver lookups (names.length + 1) registry
  (lookups.filterMap registry.result?, registry, elapsed)

end Registry

end ContractGateway
