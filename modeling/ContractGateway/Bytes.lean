import ContractGateway.Number.Power

/-!
# Byte strings

Call data, return data, addresses and hashes are finite byte strings. This module gives the
big-endian reading and writing of numbers and the hexadecimal text of bytes.

Writing a number in a fixed number of bytes keeps its low bytes; reading it back gives the
number modulo the size of that window (`toNat_ofNat`), and every byte string is the writing of
the number it reads as (`ofNat_toNat`).
-/

namespace ContractGateway

/-- A finite byte string, first byte first. -/
abbrev Bytes := List UInt8

namespace Bytes

/-- The low `length` bytes of a number, most significant byte first. -/
def ofNat : (length : Nat) → (value : Nat) → Bytes
  | 0, _ => []
  | length + 1, value => UInt8.ofNat (value / 256 ^ length % 256) :: ofNat length value

/-- The number a byte string reads as, most significant byte first. -/
def toNat (bytes : Bytes) : Nat :=
  bytes.foldl (fun total byte => total * 256 + byte.toNat) 0

/-- `length` zero bytes. -/
def zeros (length : Nat) : Bytes := List.replicate length 0

@[simp] theorem length_ofNat (length value : Nat) : (ofNat length value).length = length := by
  induction length with
  | zero => rfl
  | succ length inductionHypothesis => simp [ofNat, inductionHypothesis]

@[simp] theorem length_zeros (length : Nat) : (zeros length).length = length := by
  simp [zeros]

/-- Reading from a running total shifts the total past the bytes read. -/
theorem foldl_eq (bytes : Bytes) (total : Nat) :
    bytes.foldl (fun total byte => total * 256 + byte.toNat) total =
      total * 256 ^ bytes.length + toNat bytes := by
  induction bytes generalizing total with
  | nil => simp [toNat]
  | cons byte rest inductionHypothesis =>
      simp only [List.foldl_cons, List.length_cons, toNat]
      rw [inductionHypothesis, inductionHypothesis (0 * 256 + byte.toNat)]
      rw [Nat.pow_succ, Nat.add_mul, Nat.mul_assoc, Nat.mul_comm 256]
      simp [toNat, Nat.add_assoc]

@[simp] theorem toNat_nil : toNat [] = 0 := rfl

theorem toNat_cons (byte : UInt8) (rest : Bytes) :
    toNat (byte :: rest) = byte.toNat * 256 ^ rest.length + toNat rest := by
  rw [toNat, List.foldl_cons, foldl_eq]
  simp

theorem toNat_append (front back : Bytes) :
    toNat (front ++ back) = toNat front * 256 ^ back.length + toNat back := by
  rw [toNat, List.foldl_append, foldl_eq]
  rfl

/-- A byte string reads as a number below its window. -/
theorem toNat_lt (bytes : Bytes) : toNat bytes < 256 ^ bytes.length := by
  induction bytes with
  | nil => simp
  | cons byte rest inductionHypothesis =>
      rw [toNat_cons, List.length_cons, Nat.pow_succ]
      have small : byte.toNat < 256 := byte.toNat_lt
      calc byte.toNat * 256 ^ rest.length + toNat rest
          < byte.toNat * 256 ^ rest.length + 256 ^ rest.length := by omega
        _ = (byte.toNat + 1) * 256 ^ rest.length := by rw [Nat.add_mul, Nat.one_mul]
        _ ≤ 256 * 256 ^ rest.length := Nat.mul_le_mul_right _ (by omega)
        _ = 256 ^ rest.length * 256 := Nat.mul_comm _ _

/-- Writing in a window and reading back gives the number modulo the window. -/
theorem toNat_ofNat (length value : Nat) :
    toNat (ofNat length value) = value % 256 ^ length := by
  induction length with
  | zero => simp [ofNat, Nat.mod_one]
  | succ length inductionHypothesis =>
      have byte : (UInt8.ofNat (value / 256 ^ length % 256)).toNat =
          value / 256 ^ length % 256 := by
        rw [UInt8.toNat_ofNat']
        exact Nat.mod_eq_of_lt (Nat.mod_lt _ (by decide))
      rw [ofNat, toNat_cons, length_ofNat, inductionHypothesis, byte]
      rw [Nat.pow_succ, Nat.mod_mul, Nat.mul_comm, Nat.add_comm]

/-- Every byte string is the writing of the number it reads as. -/
theorem ofNat_toNat (bytes : Bytes) : ofNat bytes.length (toNat bytes) = bytes := by
  suffices general : ∀ (high : Nat),
      ofNat bytes.length (high * 256 ^ bytes.length + toNat bytes) = bytes by
    simpa using general 0
  induction bytes with
  | nil => intro high; rfl
  | cons byte rest inductionHypothesis =>
      intro high
      have shifted : high * 256 ^ (rest.length + 1) + toNat (byte :: rest) =
          (high * 256 + byte.toNat) * 256 ^ rest.length + toNat rest := by
        rw [toNat_cons, Nat.pow_succ, Nat.add_mul, Nat.mul_assoc,
          Nat.mul_comm (256 ^ rest.length), Nat.add_assoc]
      have quotient (window total : Nat) (below : toNat rest < window) :
          (total * window + toNat rest) / window = total := by
        rw [Nat.mul_comm, Nat.mul_add_div (by omega), Nat.div_eq_of_lt below, Nat.add_zero]
      have low : UInt8.ofNat ((high * 256 + byte.toNat) % 256) = byte := by
        have small : byte.toNat < 256 := byte.toNat_lt
        have remainder : (high * 256 + byte.toNat) % 256 = byte.toNat := by omega
        rw [remainder, UInt8.ofNat_toNat]
      rw [List.length_cons, shifted, ofNat, quotient _ _ (toNat_lt rest), low,
        inductionHypothesis]

/-- The digit of a number below sixteen, in lower case. -/
def hexDigit (value : Nat) : Char :=
  if value < 10 then Char.ofNat (value + 48) else Char.ofNat (value + 87)

/-- The value of a hexadecimal digit in either case. -/
def hexValue? (digit : Char) : Option Nat :=
  if '0' ≤ digit ∧ digit ≤ '9' then some (digit.toNat - 48)
  else if 'a' ≤ digit ∧ digit ≤ 'f' then some (digit.toNat - 87)
  else if 'A' ≤ digit ∧ digit ≤ 'F' then some (digit.toNat - 55)
  else none

/-- Two digits a byte, high half first. -/
def hexDigits : Bytes → List Char
  | [] => []
  | byte :: rest => hexDigit (byte.toNat / 16) :: hexDigit (byte.toNat % 16) :: hexDigits rest

/-- Reads two digits a byte; an odd digit or any other character is refused. -/
def ofHexDigits? : List Char → Option Bytes
  | [] => some []
  | high :: low :: rest => do
      let high ← hexValue? high
      let low ← hexValue? low
      let rest ← ofHexDigits? rest
      return UInt8.ofNat (high * 16 + low) :: rest
  | [_] => none

/-- The lower-case hexadecimal text of a byte string, with its `0x` mark. -/
def toHex (bytes : Bytes) : String := String.ofList ('0' :: 'x' :: hexDigits bytes)

/-- Drops a leading `0x` or `0X` mark when there is one. -/
def dropHexMark : List Char → List Char
  | '0' :: 'x' :: rest => rest
  | '0' :: 'X' :: rest => rest
  | characters => characters

/-- Reads hexadecimal text in either case, with or without its mark. -/
def ofHex? (text : String) : Option Bytes := ofHexDigits? (dropHexMark text.toList)

theorem hexValue?_hexDigit {value : Nat} (small : value < 16) :
    hexValue? (hexDigit value) = some value := by
  have cases : ∀ value : Fin 16, hexValue? (hexDigit value.val) = some value.val := by decide
  exact cases ⟨value, small⟩

/-- Reading the digits of a byte string gives the byte string back. -/
theorem ofHexDigits?_hexDigits (bytes : Bytes) : ofHexDigits? (hexDigits bytes) = some bytes := by
  induction bytes with
  | nil => rfl
  | cons byte rest inductionHypothesis =>
      have small : byte.toNat < 256 := byte.toNat_lt
      have halves : byte.toNat / 16 * 16 + byte.toNat % 16 = byte.toNat := by omega
      have high := hexValue?_hexDigit (show byte.toNat / 16 < 16 by omega)
      have low := hexValue?_hexDigit (show byte.toNat % 16 < 16 by omega)
      simp only [hexDigits, ofHexDigits?, high, low, inductionHypothesis, halves,
        UInt8.ofNat_toNat, Option.bind_eq_bind, Option.bind_some, Option.pure_def]

/-- Hexadecimal text reads back as the bytes it was written from. -/
theorem ofHex?_toHex (bytes : Bytes) : ofHex? (toHex bytes) = some bytes := by
  simp [ofHex?, toHex, dropHexMark, ofHexDigits?_hexDigits]

end Bytes

end ContractGateway
