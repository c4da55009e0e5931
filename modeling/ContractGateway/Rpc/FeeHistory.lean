import ContractGateway.Rpc.Receipt

/-!
# Fee histories

What a node tells of the fees of its latest blocks, and the fees that are suggested from it: twice
the base fee of the newest block, and over it the middle of what transactions paid for priority.
Where the history knows no base fee, the header of the newest block may.
-/

namespace ContractGateway.Rpc

/-- The base fees and the rewards of the latest blocks. -/
structure FeeHistory where
  baseFees : List Nat
  rewards : List (List Nat)
  deriving Repr

/-- Whether a member is a list of numbers of any kind. -/
def isRatios : Json → Bool
  | .array ratios => ratios.all fun ratio =>
      match ratio with
      | .number _ => true
      | _ => false
  | _ => false

/-- Whether a member that may be left out has a form. -/
def absentOr (form : Json → Bool) (key : String) (json : Json) : Bool :=
  (json.field? key).all form

/-- Reads a fee history. Only the ratios of used gas must be there; rewards may also be null. -/
def feeHistory? (json : Json) : Option FeeHistory := do
  if !(isRatios (json.fieldOrNull "gasUsedRatio") &&
      absentOr isRatios "blobGasUsedRatio" json &&
      absentOr (fun value => (quantities? 128 value).isSome) "baseFeePerBlobGas" json &&
      absentOr (fun value => (quantity? 64 value).isSome) "oldestBlock" json) then none
  let baseFees ←
    match json.field? "baseFeePerGas" with
    | none => some []
    | some fees => quantities? 128 fees
  let rewards ←
    match json.fieldOrNull "reward" with
    | .null => some []
    | .array blocks => blocks.mapM (quantities? 128)
    | _ => none
  return ⟨baseFees, rewards⟩

namespace FeeHistory

/-- The base fee of the newest block: behind it stands that of the block to come. -/
def latestBaseFee? (history : FeeHistory) : Option Nat :=
  match history.baseFees.reverse with
  | _ :: latest :: _ => some latest
  | _ => none

/-- The middle of a sorted list, of two middles their mean rounded down. -/
def median (values : List Nat) : Nat :=
  let middle := values.length / 2
  if values.length % 2 = 1 then values.getD middle 0
  else (values.getD (middle - 1) 0 + values.getD middle 0) / 2

/-- The priority fee: the median of the first rewards that are not zero, one at least. -/
def priorityFee (history : FeeHistory) : Nat :=
  let rewards := (history.rewards.filterMap List.head?).filter (0 < ·)
  max (median (rewards.mergeSort (· ≤ ·))) 1

/-- The suggested fees over a base fee, which is expected to double at most. -/
def estimate (history : FeeHistory) (baseFee : Nat) : FeeEstimate :=
  ⟨2 * baseFee + history.priorityFee, history.priorityFee⟩

end FeeHistory

/-- Whether the header of a block has every member it must have, each in its form. -/
def hasHeaderForm (block : Json) : Bool :=
  haveForm hash?
      ["hash", "parentHash", "stateRoot", "transactionsRoot", "receiptsRoot"] block &&
    (haveForm hash? ["sha3Uncles"] block || haveForm hash? ["ommersHash"] block) &&
    (haveForm (bytesOfSize? 20) ["miner"] block ||
      haveForm (bytesOfSize? 20) ["beneficiary"] block) &&
    haveForm (bytesOfSize? 256) ["logsBloom"] block &&
    haveForm (quantity? 256) ["difficulty"] block &&
    haveForm (quantity? 64) ["number", "gasLimit", "gasUsed", "timestamp"] block &&
    haveForm TransportError.bytesOfJson? ["extraData"] block

/-- The base fee in the header of a block, if the block has one. -/
def headerBaseFee? (block : Json) : Option (Option Nat) := do
  if !hasHeaderForm block then none
  orNull (quantity? 64) (block.fieldOrNull "baseFeePerGas")

end ContractGateway.Rpc
