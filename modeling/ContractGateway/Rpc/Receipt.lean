import ContractGateway.Ledger.Basic
import ContractGateway.Rpc.Quantity

/-!
# Receipts in JSON

A node tells of an included transaction by a receipt with many members. Only a few of them are
kept, but a receipt is read only when every member it must have is there and every member has its
form. Members that may be left out may be null as well.
-/

namespace ContractGateway.Rpc

/-- A byte string of one size. -/
def bytesOfSize? (size : Nat) (json : Json) : Option Bytes :=
  (TransportError.bytesOfJson? json).filter (·.length = size)

/-- A hash of thirty-two bytes. -/
def hash? (json : Json) : Option Hash := (bytesOfSize? 32 json).map Word.ofBytes

/-- What a member may hold that null can stand in for. -/
def orNull {α : Type} (read : Json → Option α) : Json → Option (Option α)
  | .null => some none
  | json => (read json).map some

/-- Whether every one of some members has a form; a member that is left out reads as null. -/
def haveForm {α : Type} (read : Json → Option α) (keys : List String) (json : Json) : Bool :=
  keys.all fun key => (read (json.fieldOrNull key)).isSome

/-- Whether a member names a kind of receipt, by its mark or by its place among the kinds. -/
def isReceiptType : Json → Bool
  | .string mark =>
      ["0x0", "0x00", "0x1", "0x01", "0x2", "0x02", "0x3", "0x03", "0x4", "0x04"].contains mark
  | json => (json.natBelow? 5).isSome

/-- Whether a flag is there or left out. -/
def isOptionalFlag : Option Json → Bool
  | none | some (.bool _) => true
  | _ => false

/-- Whether an entry of a receipt's log has its form. -/
def isLogEntry (entry : Json) : Bool :=
  haveForm (bytesOfSize? 20) ["address"] entry &&
    (match entry.fieldOrNull "topics" with
      | .array topics => topics.all fun topic => (hash? topic).isSome
      | _ => false) &&
    haveForm TransportError.bytesOfJson? ["data"] entry &&
    haveForm (orNull hash?) ["blockHash", "transactionHash"] entry &&
    haveForm (orNull (quantity? 64))
      ["blockNumber", "blockTimestamp", "transactionIndex", "logIndex"] entry &&
    isOptionalFlag (entry.field? "removed")

/-- Whether the members of a receipt that are not kept have their forms. -/
def hasReceiptForm (json : Json) : Bool :=
  isReceiptType (json.fieldOrNull "type") &&
    haveForm (quantity? 64) ["cumulativeGasUsed"] json &&
    (match json.fieldOrNull "logs" with
      | .array entries => entries.all isLogEntry
      | _ => false) &&
    haveForm (bytesOfSize? 256) ["logsBloom"] json &&
    haveForm (bytesOfSize? 20) ["from"] json &&
    haveForm (orNull (bytesOfSize? 20)) ["to", "contractAddress"] json &&
    haveForm (orNull hash?) ["blockHash"] json &&
    haveForm (orNull (quantity? 64)) ["transactionIndex", "blobGasUsed"] json &&
    haveForm (orNull (quantity? 128)) ["blobGasPrice"] json

/-- Whether a receipt tells success. Without a status its state root stands for success. -/
def status? (json : Json) : Option Bool :=
  match quantity? 1 (json.fieldOrNull "status") with
  | some status => some (status = 1)
  | none => (hash? (json.fieldOrNull "root")).map fun _ => true

/-- A receipt; one without a block is not included yet. -/
def receipt? (json : Json) : Option (Option Receipt) := do
  if !hasReceiptForm json then none
  let hash ← hash? (json.fieldOrNull "transactionHash")
  let gasUsed ← quantity? 64 (json.fieldOrNull "gasUsed")
  let price ← quantity? 128 (json.fieldOrNull "effectiveGasPrice")
  let succeeded ← status? json
  let block ← orNull (quantity? 64) (json.fieldOrNull "blockNumber")
  return block.map fun block => { hash, block, gasUsed, price, succeeded }

end ContractGateway.Rpc
