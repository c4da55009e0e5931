import ContractGateway.Field

/-!
# Protocol settings

A setting is a named value on a settings contract, read through one of three getters that take
the name. Every setting declares its kind, which fixes the getter, the host type of its value and
the way the value is carried in a proposal.

The registry keeps its entries in the order in which their paths were first registered, and beside
them the place of each path; registering a path again replaces its entry in place.
-/

namespace ContractGateway

/-- How a setting is carried in a proposal. -/
inductive ProposalType where
  | uint256
  | bool
  | address
  deriving DecidableEq, Repr

namespace ProposalType

/-- The name of a proposal type. -/
def name : ProposalType → String
  | .uint256 => "Uint256"
  | .bool => "Bool"
  | .address => "Address"

/-- The proposal types as contracts count them. -/
def wireEnum : WireEnum where
  name := "ProposalSettingType"
  variants := [("Uint256", 0), ("Bool", 1), ("Address", 2)]
  indices_nodup := by decide
  indices_lt := by decide

end ProposalType

/-- What a setting stands for on the host. -/
inductive SettingKind where
  | bool
  /-- A plain word. -/
  | uint
  /-- A ratio with eighteen decimal places. -/
  | ratio
  | count
  | duration
  | timestamp
  | address
  deriving DecidableEq, Repr

namespace SettingKind

/-- The name of a kind. -/
def name : SettingKind → String
  | .bool => "Bool"
  | .uint => "Uint"
  | .ratio => "Ratio"
  | .count => "Count"
  | .duration => "Duration"
  | .timestamp => "Timestamp"
  | .address => "Address"

/-- The method that settings of a kind are read with. -/
def getter : SettingKind → String
  | .bool => "getSettingBool"
  | .address => "getSettingAddress"
  | _ => "getSettingUint"

/-- How settings of a kind are carried in a proposal. -/
def proposalType : SettingKind → ProposalType
  | .bool => .bool
  | .address => .address
  | _ => .uint256

/-- The slot type that holds the values of a kind. -/
@[reducible] def slotType : SettingKind → SlotType
  | .bool => .bool
  | .uint => .unit .word
  | .ratio => .unit .ratio
  | .count => .unit (.unsigned .u64)
  | .duration => .unit .duration
  | .timestamp => .unit .timestamp
  | .address => .address

end SettingKind

/-- A value of a setting, with its kind. -/
structure SettingValue where
  kind : SettingKind
  value : kind.slotType.Value

namespace SettingValue

/-- The number behind a value: zero or one for a flag, the address itself for an address. -/
def toWord : SettingValue → Except ConversionError Word
  | ⟨.bool, value⟩ => .ok (if value then 1 else 0)
  | ⟨.uint, value⟩ => HostUnit.toWire .word value
  | ⟨.ratio, value⟩ => HostUnit.toWire .ratio value
  | ⟨.count, value⟩ => HostUnit.toWire (.unsigned .u64) value
  | ⟨.duration, value⟩ => HostUnit.toWire .duration value
  | ⟨.timestamp, value⟩ => HostUnit.toWire .timestamp value
  | ⟨.address, value⟩ => .ok (BitVec.ofNat 256 value.toNat)

/-- The ABI value that a setting is proposed as. -/
def toAbi (value : SettingValue) : Except ConversionError AbiValue :=
  value.kind.slotType.toAbi value.value

/-- The word that one value takes up in a proposal of several settings. -/
def proposalWord
    (index : Nat)
    (type : ProposalType)
    (value : SettingValue) : Except GatewayError Word :=
  let label := "proposal setting " ++ toString index
  if value.kind.proposalType ≠ type then
    .error (.encode label (.settingType value.kind.name type.name))
  else value.toWord.mapError fun cause => .encode label (.conversion cause)

/-- The words of values from some position on; the first that cannot be carried fails. -/
def proposalWordsFrom :
    (index : Nat) → List ProposalType → List SettingValue → Except GatewayError (List Word)
  | index, type :: types, value :: values => do
      let word ← proposalWord index type value
      let words ← proposalWordsFrom (index + 1) types values
      return word :: words
  | _, _, _ => .ok []

/-- The words of a proposal of several settings, one a value. -/
def proposalWords
    (types : List ProposalType)
    (values : List SettingValue) : Except GatewayError (List Word) :=
  if types.length ≠ values.length then
    .error (.encode "proposal settings" (.settingCount types.length values.length))
  else proposalWordsFrom 0 types values

end SettingValue

/-- One registered setting. -/
structure SettingEntry where
  path : String
  kind : SettingKind
  field : Field kind.slotType

namespace SettingEntry

/-- Binds a path on a settings contract. -/
def bind (contract : Contract) (path : String) (kind : SettingKind) :
    Except GatewayError SettingEntry := do
  let field ← Field.bind kind.slotType contract kind.getter
  return ⟨path, kind, field.withArguments [.string path]⟩

/-- The arguments of a proposal of one setting: contract name, path and value. -/
def proposalArguments
    (entry : SettingEntry)
    (value : SettingValue) : Except GatewayError (List AbiValue) := do
  let name := entry.field.contract.name
  let label := name ++ ":" ++ entry.path
  if value.kind ≠ entry.kind then
    throw (.encode label (.settingKind value.kind.name entry.kind.name))
  let argument ← value.toAbi.mapError fun cause => .encode label (.conversion cause)
  return [.string name, .string entry.path, argument]

end SettingEntry

/-- The slot of one setting in a batch. -/
structure PendingSetting where
  path : String
  kind : SettingKind
  slot : Slot kind.slotType

namespace PendingSetting

/-- The value of a setting from the results of its batch. -/
def collect
    (setting : PendingSetting)
    (results : Results) : Except GatewayError (String × SettingValue) :=
  match results.get setting.slot with
  | some value => .ok (setting.path, ⟨setting.kind, value⟩)
  | none => .error (.slot setting.slot.index setting.path .absent)

end PendingSetting

/-- The registered settings, in the order of first registration. -/
structure Settings where
  entries : List SettingEntry := []
  /-- The place of the entry of each path. -/
  places : List (String × Nat) := []

namespace Settings

/-- The entry of a path. -/
def get (settings : Settings) (path : String) : Option SettingEntry :=
  (settings.places.lookup path).bind (settings.entries[·]?)

/-- Puts an entry in the place of its path, at the end when the path is new. -/
def put (settings : Settings) (entry : SettingEntry) : Settings :=
  match settings.places.lookup entry.path with
  | some place => { settings with entries := settings.entries.set place entry }
  | none =>
      { entries := settings.entries ++ [entry]
        places := settings.places ++ [(entry.path, settings.entries.length)] }

/--
Registers a path on a settings contract. The settings come back as they stand also when the path
cannot be bound.
-/
def register
    (settings : Settings)
    (contract : Contract)
    (path : String)
    (kind : SettingKind) : Except GatewayError SettingEntry × Settings :=
  match SettingEntry.bind contract path kind with
  | .error error => (.error error, settings)
  | .ok entry => (.ok entry, settings.put entry)

/-- The entries that proposals carry in one way. -/
def ofType (settings : Settings) (type : ProposalType) : List SettingEntry :=
  settings.entries.filter fun entry => entry.kind.proposalType = type

/-- The entries of one kind. -/
def ofKind (settings : Settings) (kind : SettingKind) : List SettingEntry :=
  settings.entries.filter fun entry => entry.kind = kind

/--
Enqueues entries in order. The batch comes back as it stands also when an entry fails: the
entries before it remain enqueued.
-/
def enqueueEntries :
    List SettingEntry → Batch → Except GatewayError (List PendingSetting) × Batch
  | [], batch => (.ok [], batch)
  | entry :: rest, batch =>
      match entry.field.enqueue batch with
      | .error error => (.error error, batch)
      | .ok (slot, batch) =>
          let (pending, batch) := enqueueEntries rest batch
          (pending.map (⟨entry.path, entry.kind, slot⟩ :: ·), batch)

/-- Enqueues the read of every registered setting. -/
def enqueueAll
    (settings : Settings)
    (batch : Batch) : Except GatewayError (List PendingSetting) × Batch :=
  enqueueEntries settings.entries batch

/-- The values of enqueued settings in order; the first that has no value fails. -/
def collect
    (pending : List PendingSetting)
    (results : Results) : Except GatewayError (List (String × SettingValue)) :=
  pending.mapM (·.collect results)

end Settings

end ContractGateway
