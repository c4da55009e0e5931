import ContractGateway.Json
import ContractGateway.Word

/-!
# Quantities of the node interface

Numbers are written as hexadecimal text with the fewest digits. When they are read, a mark in front
of the digits tells their base, digits without a mark are decimal, underscores between digits mean
nothing, and a number may also stand as such in JSON. A reader of a fixed width refuses numbers
that do not fit it.
-/

namespace ContractGateway.Rpc

/-- The text of a number: at least one digit and no leading zero. -/
def quantityText (value : Nat) : String :=
  "0x" ++ String.ofList (Text.hexOfNat value)

/-- The number that digits of a base up to sixteen stand for; no digits stand for zero. -/
def numberInBase? (base : Nat) (digits : List Char) : Option Nat :=
  digits.foldl (fun total digit => do
    let total ← total
    let value ← Bytes.hexValue? digit
    if value < base then some (total * base + value) else none) (some 0)

/-- The base that a mark announces, and the digits behind the mark. -/
def baseAndDigits : List Char → Nat × List Char
  | '0' :: mark :: digits =>
      if mark = 'x' ∨ mark = 'X' then (16, digits)
      else if mark = 'o' ∨ mark = 'O' then (8, digits)
      else if mark = 'b' ∨ mark = 'B' then (2, digits)
      else (10, '0' :: mark :: digits)
  | digits => (10, digits)

/-- The number that a text stands for. -/
def numberOfText? (text : String) : Option Nat :=
  let (base, digits) := baseAndDigits text.toList
  numberInBase? base (digits.filter (· ≠ '_'))

/-- A number of some bits; as a number of JSON it has sixty-four at most. -/
def quantity? (bits : Nat) (json : Json) : Option Nat := do
  let value ←
    match json with
    | .string text => numberOfText? text
    | json => json.natBelow? (2 ^ 64)
  if value < 2 ^ bits then some value else none

/-- A list of numbers of some bits. -/
def quantities? (bits : Nat) : Json → Option (List Nat)
  | .array items => items.mapM (quantity? bits)
  | _ => none

end ContractGateway.Rpc
