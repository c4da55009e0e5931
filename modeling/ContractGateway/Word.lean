import ContractGateway.Bytes

/-!
# Words and addresses

The ledger computes with words of 256 bits and names accounts and contracts by addresses of 160
bits. Both are bit vectors; a word travels as thirty-two bytes, most significant byte first.
-/

namespace ContractGateway

/-- A 256-bit word. -/
abbrev Word := BitVec 256

/-- A hash is a word that is only ever compared. -/
abbrev Hash := BitVec 256

/-- An account or contract address. -/
abbrev Address := BitVec 160

namespace Word

/-- The thirty-two bytes of a word. -/
def toBytes (word : Word) : Bytes := Bytes.ofNat 32 word.toNat

/-- The word that a byte string reads as, modulo the size of a word. -/
def ofBytes (bytes : Bytes) : Word := BitVec.ofNat 256 bytes.toNat

@[simp] theorem length_toBytes (word : Word) : word.toBytes.length = 32 := by
  simp [toBytes]

/-- A word survives being written as bytes. -/
@[simp] theorem ofBytes_toBytes (word : Word) : ofBytes word.toBytes = word := by
  apply BitVec.eq_of_toNat_eq
  have small : word.toNat < 2 ^ 256 := word.isLt
  have window : (256 : Nat) ^ 32 = 2 ^ 256 := by decide
  simp only [ofBytes, toBytes, BitVec.toNat_ofNat, Bytes.toNat_ofNat, window,
    Nat.mod_eq_of_lt small]

/-- The `0x` text of the thirty-two bytes. -/
def toHex (word : Word) : String := Bytes.toHex word.toBytes

end Word

namespace Address

/-- The twenty bytes of an address. -/
def toBytes (address : Address) : Bytes := Bytes.ofNat 20 address.toNat

/-- The address that a byte string reads as, modulo the size of an address. -/
def ofBytes (bytes : Bytes) : Address := BitVec.ofNat 160 bytes.toNat

/-- The `0x` text of the twenty bytes. -/
def toHex (address : Address) : String := Bytes.toHex (toBytes address)

end Address

end ContractGateway
