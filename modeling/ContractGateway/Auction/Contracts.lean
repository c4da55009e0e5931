import ContractGateway.Field

/-!
# The contracts of an auction

An auction of lots, the token that bids are paid in, and the settings of the auction. A lot is
bound by three fields: whether it exists, the block it starts at, and its current price.
-/

namespace ContractGateway

namespace Auction

/-- A parameter of a plain type. -/
def plain (type : String) : Parameter := .mk type []

/-- A method that only reads. -/
def view (name : String) (inputs outputs : List String) : Method :=
  ⟨name, inputs.map plain, outputs.map plain, .view⟩

/-- A method that writes. -/
def writing (name : String) (inputs outputs : List String) : Method :=
  ⟨name, inputs.map plain, outputs.map plain, .nonpayable⟩

/-- The address of twenty equal bytes. -/
def repeated (byte : UInt8) : Address := Address.ofBytes (List.replicate 20 byte)

/-- The contract that holds the lots. -/
def manager : Contract where
  name := "rocketAuctionManager"
  address := repeated 0x10
  methods :=
    [view "getLotExists" ["uint256"] ["bool"],
      view "getLotStartBlock" ["uint256"] ["uint256"],
      view "getLotEndBlock" ["uint256"] ["uint256"],
      view "getLotCurrentPrice" ["uint256"] ["uint256"],
      view "getLotCount" [] ["uint256"],
      writing "createLot" [] [],
      { writing "placeBid" ["uint256"] [] with mutability := .payable },
      writing "claimBid" ["uint256"] []]

/-- The contract of the token. -/
def token : Contract where
  name := "rocketTokenRPL"
  address := repeated 0x20
  methods :=
    [view "balanceOf" ["address"] ["uint256"],
      writing "approve" ["address", "uint256"] ["bool"],
      writing "transfer" ["address", "uint256"] ["bool"]]

/-- The contract that holds the settings. -/
def settings : Contract where
  name := "rocketDAOProtocolSettingsAuction"
  address := repeated 0x30
  methods :=
    [view "getSettingBool" ["string"] ["bool"],
      view "getSettingUint" ["string"] ["uint256"],
      view "getSettingAddress" ["string"] ["address"]]

/-- The contracts that belong to an auction. -/
def contracts : List Contract := [manager, token, settings]

/-- The argument that names a lot. -/
def lotIndex (index : Nat) : List AbiValue := [.uint (BitVec.ofNat 256 index) 256]

/-- The fields of a lot. -/
structure Lot where
  index : Nat
  present : Field .bool
  startBlock : Field (.unit (.unsigned .u64))
  currentPrice : Field (.unit .ratio)

/-- The slots of a lot in a batch. -/
structure LotSlots where
  present : Slot .bool
  startBlock : Slot (.unit (.unsigned .u64))
  currentPrice : Slot (.unit .ratio)

/-- The values of a lot. -/
structure LotValues where
  present : Bool
  startBlock : BitVec 64
  currentPrice : Binary64

namespace Lot

/-- Binds a lot on the contract that holds it. -/
def bind (contract : Contract) (index : Nat) : Except GatewayError Lot := do
  let present ← Field.bind .bool contract "getLotExists"
  let startBlock ← Field.bind (.unit (.unsigned .u64)) contract "getLotStartBlock"
  let currentPrice ← Field.bind (.unit .ratio) contract "getLotCurrentPrice"
  return {
    index
    present := present.withArguments (lotIndex index)
    startBlock := startBlock.withArguments (lotIndex index)
    currentPrice := currentPrice.withArguments (lotIndex index) }

/-- Appends the three reads of a lot to a batch. -/
def enqueue (lot : Lot) (batch : Batch) : Except GatewayError (LotSlots × Batch) := do
  let (present, batch) ← lot.present.enqueue batch
  let (startBlock, batch) ← lot.startBlock.enqueue batch
  let (currentPrice, batch) ← lot.currentPrice.enqueue batch
  return (⟨present, startBlock, currentPrice⟩, batch)

/-- Appends the reads of several lots to a batch. -/
def enqueueAll : List Lot → Batch → Except GatewayError (List LotSlots × Batch)
  | [], batch => .ok ([], batch)
  | lot :: rest, batch => do
      let (slots, batch) ← lot.enqueue batch
      let (more, batch) ← enqueueAll rest batch
      return (slots :: more, batch)

end Lot

/-- The values of a lot from the results of its batch. -/
def LotSlots.values? (slots : LotSlots) (results : Results) : Option LotValues := do
  let present ← results.get slots.present
  let startBlock ← results.get slots.startBlock
  let currentPrice ← results.get slots.currentPrice
  return ⟨present, startBlock, currentPrice⟩

end Auction

end ContractGateway
