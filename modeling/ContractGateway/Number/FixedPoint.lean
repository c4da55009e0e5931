import ContractGateway.Number.Shortest
import ContractGateway.Rpc.Quantity

/-!
# Fixed-point words

A word with `decimals` places stands for the number `word / 10 ^ decimals`. Reading takes the
nearest double. Writing takes the shortest text of the double, refuses the texts that no word can
stand for by their looks, and leaves the others to a reader of units.
-/

namespace ContractGateway.FixedPoint

/-- The largest number of places a word can have: `10 ^ 77` is the last power that fits. -/
def maxDecimals : Nat := 77

/-- The double nearest to the number that a word stands for. -/
def toBinary64? (raw : Word) (decimals : Nat) : Option Binary64 :=
  if decimals ≤ maxDecimals then some (Binary64.ofRatio raw.toNat (10 ^ decimals)) else none

/-- A reader of units: the word with some places that a text stands for, if there is one. -/
abbrev UnitReader := (text : String) → (decimals : Nat) → Option Word

/-- The part of a text in front of its first point. -/
def wholePart (text : String) : List Char := text.toList.takeWhile (· ≠ '.')

/-- The part of a text behind its first point; empty in a text without one. -/
def fractionPart (text : String) : List Char := (text.toList.dropWhile (· ≠ '.')).tail

/--
The reader of units that the executable is linked with, for texts without a sign. It takes the point
out, reads the digits as one number and multiplies it by the power of ten that is left of the
places. Digits behind the last place are cut off. Neither the power nor the product may be beyond
the largest word.
-/
def parseUnits? : UnitReader := fun text decimals => do
  if maxDecimals < decimals then none
  let places := (fractionPart text).take decimals
  let number ← Rpc.numberInBase? 10 (wholePart text ++ places)
  let units := number * 10 ^ (decimals - places.length)
  if units < 2 ^ 256 then some (BitVec.ofNat 256 units) else none

/--
The word that a reader has for the shortest text of a double. Numbers below zero, infinities, NaN
and numbers with more places than there are have none. Zero of either sign is the zero word, however
many places are asked for.
-/
def ofBinary64? (reader : UnitReader) (number : Binary64) (decimals : Nat) : Option Word :=
  if !number.isFinite || (number.isNegative && !number.isZero) then none
  else if number.isZero then some 0
  else if decimals < (fractionPart number.toText).length then none
  else reader number.toText decimals

end ContractGateway.FixedPoint
