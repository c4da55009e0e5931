import ContractGateway.Contract

/-!
# The registry of contract identities

The registry turns names into contracts, asking a resolver once for each name. Every name has a
cell. The first lookup that finds its cell empty calls the resolver; the others wait in the order
of their arrival. When the call succeeds, the cell is filled and everybody takes the same
identity out of it. When it fails, only the caller fails, and the next one in the queue calls the
resolver itself.

Lookups run side by side, and a resolver call takes time, so the registry is a machine with small
steps: a lookup begins, advances, or has its resolver call answered, and a name is forgotten.
`Registry.run` performs any interleaving of such steps. Forgetting a name detaches its cell:
lookups that have found the cell keep it, later ones make a new one.
-/

namespace ContractGateway

/-- One resolution of a name. The serial number tells apart equal contracts resolved twice. -/
structure Identity where
  serial : Nat
  contract : Contract
  deriving Repr

/-- What a resolver knows about a name. -/
structure Resolution where
  address : Address
  methods : List Method
  deriving Repr

/-- How far a lookup has come. -/
inductive LookupPhase where
  /-- It has found its cell. -/
  | arrived (cell : Nat)
  /-- It waits in the queue of its cell. -/
  | waiting (cell : Nat)
  /-- Its turn to call the resolver has come. -/
  | chosen (cell : Nat)
  /-- Its resolver call has begun. -/
  | resolving (cell : Nat)
  | finished (result : Except GatewayError Identity)

/-- A lookup of a name. -/
structure Lookup where
  name : String
  phase : LookupPhase

/-- The place of one name: its identity once known, who may call the resolver, and the queue. -/
structure Cell where
  identity : Option Identity := none
  holder : Option Nat := none
  queue : List Nat := []

/-- The registry. Cells and lookups are known by their positions and never go away. -/
structure Registry where
  cells : List Cell := []
  /-- The cells in use, by name. -/
  names : List (String × Nat) := []
  lookups : List Lookup := []
  /-- The lookups whose resolver calls have begun, newest first. -/
  calls : List Nat := []
  /-- The serial number of the next identity. -/
  nextSerial : Nat := 0

namespace Registry

/-- A cell by its position; positions that are not in use read as empty cells. -/
def cell (registry : Registry) (index : Nat) : Cell := registry.cells.getD index {}

/-- How far a lookup has come. -/
def phase? (registry : Registry) (lookup : Nat) : Option LookupPhase :=
  (registry.lookups[lookup]?).map Lookup.phase

/-- Changes one lookup. -/
def setPhase (registry : Registry) (lookup : Nat) (phase : LookupPhase) : Registry :=
  { registry with lookups := registry.lookups.modify lookup ({ · with phase }) }

/-- Changes one cell. -/
def setCell (registry : Registry) (index : Nat) (cell : Cell) : Registry :=
  { registry with cells := registry.cells.set index cell }

/-- The cell of a name, which is made when there is none. -/
def cellOf (registry : Registry) (name : String) : Nat × Registry :=
  match registry.names.lookup name with
  | some index => (index, registry)
  | none =>
      let index := registry.cells.length
      (index,
        { registry with
          cells := registry.cells ++ [{}]
          names := registry.names ++ [(name, index)] })

/-- A lookup begins: it finds the cell of its name. -/
def begin (registry : Registry) (name : String) : Nat × Registry :=
  let (index, registry) := registry.cellOf name
  (registry.lookups.length,
    { registry with lookups := registry.lookups ++ [⟨name, .arrived index⟩] })

/-- A lookup begins to call the resolver. -/
def call (registry : Registry) (lookup index : Nat) : Registry :=
  { registry.setPhase lookup (.resolving index) with calls := lookup :: registry.calls }

/--
A lookup goes on as far as it can: it takes the identity out of a filled cell, calls the resolver
when it may, and queues otherwise.
-/
def advance (registry : Registry) (lookup : Nat) : Registry :=
  match registry.phase? lookup with
  | some (.arrived index) =>
      let cell := registry.cell index
      match cell.identity, cell.holder with
      | some identity, _ => registry.setPhase lookup (.finished (.ok identity))
      | none, none =>
          (registry.setCell index { cell with holder := some lookup }).call lookup index
      | none, some _ =>
          (registry.setCell index { cell with queue := cell.queue ++ [lookup] }).setPhase
            lookup (.waiting index)
  | some (.waiting index) =>
      match (registry.cell index).identity with
      | some identity => registry.setPhase lookup (.finished (.ok identity))
      | none => registry
  | some (.chosen index) => registry.call lookup index
  | _ => registry

/-- A successful resolver call fills the cell for everybody. -/
def fill
    (registry : Registry)
    (lookup index : Nat)
    (name : String)
    (resolution : Resolution) : Registry :=
  let identity : Identity :=
    ⟨registry.nextSerial, ⟨name, resolution.address, resolution.methods⟩⟩
  let filled := registry.setCell index { identity := some identity }
  { filled.setPhase lookup (.finished (.ok identity)) with
    nextSerial := registry.nextSerial + 1 }

/-- A failed resolver call fails its lookup and passes the turn on. -/
def fail
    (registry : Registry)
    (lookup index : Nat)
    (name reason : String) : Registry :=
  let failed := registry.setPhase lookup (.finished (.error (.unknownContract name reason)))
  match (registry.cell index).queue with
  | [] => failed.setCell index {}
  | next :: queue =>
      (failed.setCell index { holder := some next, queue }).setPhase next (.chosen index)

/-- The resolver call of a lookup is answered. -/
def settle
    (registry : Registry)
    (lookup : Nat)
    (answer : Except String Resolution) : Registry :=
  match registry.lookups[lookup]? with
  | some ⟨name, .resolving index⟩ =>
      match answer with
      | .ok resolution => registry.fill lookup index name resolution
      | .error reason => registry.fail lookup index name reason
  | _ => registry

/-- Whether a name has a cell, filled or not. -/
def hasCell (registry : Registry) (name : String) : Bool :=
  (registry.names.lookup name).isSome

/-- Forgets a name, whether or not it was resolved. -/
def invalidate (registry : Registry) (name : String) : Registry :=
  { registry with names := registry.names.filter (·.1 ≠ name) }

/-- Whether a name has an identity. -/
def isCached (registry : Registry) (name : String) : Bool :=
  match registry.names.lookup name with
  | some index => (registry.cell index).identity.isSome
  | none => false

/-- The result of a lookup that has finished. -/
def result? (registry : Registry) (lookup : Nat) : Option (Except GatewayError Identity) :=
  match registry.phase? lookup with
  | some (.finished result) => some result
  | _ => none

/-- The names that the resolver was called with, in order. -/
def resolvedNames (registry : Registry) : List String :=
  registry.calls.reverse.filterMap fun lookup => registry.lookups[lookup]?.map (·.name)

/-- The description of a registry: how many names have cells. -/
def describe (registry : Registry) : String :=
  "ContractRegistry \x7b cached: " ++ toString registry.names.length ++ ", .. \x7d"

end Registry

/-- One step of a run. -/
inductive RegistryStep where
  | begin (name : String)
  | advance (lookup : Nat)
  | settle (lookup : Nat) (answer : Except String Resolution)
  | invalidate (name : String)

namespace Registry

/-- Performs one step. -/
def step (registry : Registry) : RegistryStep → Registry
  | .begin name => (registry.begin name).2
  | .advance lookup => registry.advance lookup
  | .settle lookup answer => registry.settle lookup answer
  | .invalidate name => registry.invalidate name

/-- Performs steps in order. -/
def run (registry : Registry) (steps : List RegistryStep) : Registry :=
  steps.foldl step registry

end Registry

end ContractGateway
