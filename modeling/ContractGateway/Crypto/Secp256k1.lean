import ContractGateway.Crypto.Keccak

/-!
# Account addresses of private keys

A private key is a scalar; its public key is that multiple of the generator of the curve
`y² = x³ + 7` over the field of `p = 2²⁵⁶ - 2³² - 977` elements, and the account address is the
tail of the Keccak hash of the public key.
-/

namespace ContractGateway.Secp256k1

/-- The size of the field. -/
def fieldSize : Nat := 2 ^ 256 - 2 ^ 32 - 977

/-- A point in projective coordinates `(x / z², y / z³)`; `z = 0` is the neutral point. -/
structure Point where
  x : Nat
  y : Nat
  z : Nat

/-- The neutral point. -/
def neutral : Point := ⟨1, 1, 0⟩

/-- The generator. -/
def generator : Point where
  x := 0x79BE667EF9DCBBAC55A06295CE870B07029BFCDB2DCE28D959F2815B16F81798
  y := 0x483ADA7726A3C4655DA4FBFC0E1108A8FD17B448A68554199C47D08FFB10D4B8
  z := 1

/-- Product in the field. -/
def times (left right : Nat) : Nat := left * right % fieldSize

/-- Difference in the field. -/
def minus (left right : Nat) : Nat := (left + (fieldSize - right % fieldSize)) % fieldSize

/-- Power in the field, by the bits of the exponent. -/
def power (base : Nat) : (bits exponent : Nat) → Nat
  | 0, _ => 1
  | bits + 1, exponent =>
      let root := power base bits (exponent / 2)
      let square := times root root
      if exponent % 2 = 1 then times square base else square

/-- Inverse in the field of a nonzero element. -/
def inverse (value : Nat) : Nat := power value 256 (fieldSize - 2)

/-- Twice a point. -/
def double (point : Point) : Point :=
  let a := times point.x point.x
  let b := times point.y point.y
  let c := times b b
  let sum := point.x + b
  let d := times 2 (minus (minus (times sum sum) a) c)
  let e := times 3 a
  let x := minus (times e e) (times 2 d)
  ⟨x, minus (times e (minus d x)) (times 8 c), times 2 (times point.y point.z)⟩

/-- The sum of two points. -/
def add (left right : Point) : Point :=
  if left.z = 0 then right
  else if right.z = 0 then left
  else
    let leftSquare := times left.z left.z
    let rightSquare := times right.z right.z
    let u := times left.x rightSquare
    let v := times right.x leftSquare
    let s := times left.y (times right.z rightSquare)
    let t := times right.y (times left.z leftSquare)
    if u = v then if s = t then double left else neutral
    else
      let h := minus v u
      let square := times h h
      let cube := times square h
      let r := minus t s
      let base := times u square
      let x := minus (minus (times r r) cube) (times 2 base)
      ⟨x, minus (times r (minus base x)) (times s cube), times h (times left.z right.z)⟩

/-- The multiple of a point by a scalar, by the bits of the scalar. -/
def multiply (point : Point) : (bits scalar : Nat) → Point
  | 0, _ => neutral
  | bits + 1, scalar =>
      let twice := double (multiply point bits (scalar / 2))
      if scalar % 2 = 1 then add twice point else twice

/-- The sixty-four bytes of the public key of a private key. -/
def publicKey (key : Nat) : Bytes :=
  let point := multiply generator 256 key
  let inverted := inverse point.z
  let square := times inverted inverted
  Bytes.ofNat 32 (times point.x square) ++
    Bytes.ofNat 32 (times point.y (times square inverted))

/-- The account address of a private key. -/
def address (key : Nat) : Address :=
  Address.ofBytes ((Keccak.hashBytes (publicKey key)).drop 12)

end ContractGateway.Secp256k1
