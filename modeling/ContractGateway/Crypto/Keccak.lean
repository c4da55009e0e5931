import ContractGateway.Word

/-!
# Keccak-256

The hash behind function selectors, error selectors, transaction hashes and account addresses:
the Keccak sponge over twenty-five 64-bit lanes with a rate of 136 bytes and the padding byte
`0x01`.
-/

namespace ContractGateway.Keccak

/-- The sponge state: lane `(x, y)` stands at index `x + 5 * y`. -/
abbrev State := Array UInt64

/-- A lane of the state. -/
def lane (state : State) (x y : Nat) : UInt64 := state.getD (x % 5 + 5 * (y % 5)) 0

/-- A state given lane by lane. -/
def ofLanes (value : Nat → Nat → UInt64) : State :=
  Array.ofFn fun index : Fin 25 => value (index.val % 5) (index.val / 5)

/-- A lane turned left. -/
def rotate (value : UInt64) (amount : Nat) : UInt64 :=
  if amount % 64 = 0 then value
  else (value <<< UInt64.ofNat (amount % 64)) ||| (value >>> UInt64.ofNat (64 - amount % 64))

/-- How far each lane turns. -/
def rotations : Array Nat :=
  #[0, 1, 62, 28, 27, 36, 44, 6, 55, 20, 3, 10, 43, 25, 39, 41, 45, 15, 21, 8, 18, 2, 61, 56, 14]

/-- The constants that make the rounds differ. -/
def roundConstants : List UInt64 :=
  [0x0000000000000001, 0x0000000000008082, 0x800000000000808A, 0x8000000080008000,
    0x000000000000808B, 0x0000000080000001, 0x8000000080008081, 0x8000000000008009,
    0x000000000000008A, 0x0000000000000088, 0x0000000080008009, 0x000000008000000A,
    0x000000008000808B, 0x800000000000008B, 0x8000000000008089, 0x8000000000008003,
    0x8000000000008002, 0x8000000000000080, 0x000000000000800A, 0x800000008000000A,
    0x8000000080008081, 0x8000000000008080, 0x0000000080000001, 0x8000000080008008]

/-- One round of the permutation. -/
def round (state : State) (constant : UInt64) : State :=
  let column (x : Nat) : UInt64 :=
    lane state x 0 ^^^ lane state x 1 ^^^ lane state x 2 ^^^ lane state x 3 ^^^ lane state x 4
  let columns : Array UInt64 := Array.ofFn fun x : Fin 5 => column x.val
  let parity (x : Nat) : UInt64 := columns.getD (x % 5) 0
  let mixed := ofLanes fun x y => lane state x y ^^^ parity (x + 4) ^^^ rotate (parity (x + 1)) 1
  let moved := ofLanes fun x y =>
    rotate (lane mixed (x + 3 * y) x) (rotations.getD ((x + 3 * y) % 5 + 5 * x) 0)
  let bent := ofLanes fun x y =>
    lane moved x y ^^^ (~~~lane moved (x + 1) y &&& lane moved (x + 2) y)
  bent.modify 0 (· ^^^ constant)

/-- The permutation: twenty-four rounds. -/
def permute (state : State) : State := roundConstants.foldl round state

/-- Bytes absorbed by one permutation. -/
def rate : Nat := 136

/-- A lane read from its bytes, least significant byte first. -/
def laneOfBytes (bytes : Bytes) : UInt64 := UInt64.ofNat (Bytes.toNat bytes.reverse)

/-- A message filled up to a whole number of blocks. -/
def pad (message : Bytes) : Bytes :=
  let missing := rate - message.length % rate
  if missing = 1 then message ++ [0x81]
  else message ++ 0x01 :: Bytes.zeros (missing - 2) ++ [0x80]

/-- Mixes one block into the state. -/
def absorb (state : State) (block : Bytes) : State :=
  permute (state.mapIdx fun index value =>
    if index < rate / 8 then value ^^^ laneOfBytes ((block.drop (8 * index)).take 8) else value)

/-- Absorbs the blocks of a padded message. -/
def absorbAll : (blocks : Nat) → State → Bytes → State
  | 0, state, _ => state
  | blocks + 1, state, message =>
      absorbAll blocks (absorb state (message.take rate)) (message.drop rate)

/-- The thirty-two bytes of the hash of a message. -/
def hashBytes (message : Bytes) : Bytes :=
  let padded := pad message
  let state := absorbAll (padded.length / rate) (Array.replicate 25 0) padded
  (state.toList.take 4).flatMap fun value => (Bytes.ofNat 8 value.toNat).reverse

/-- The hash of a message as a word. -/
def hash (message : Bytes) : Hash := Word.ofBytes (hashBytes message)

end ContractGateway.Keccak
