import ContractGateway.Number.Binary64

/-!
# The shortest decimal of a double

A finite positive double is written with the fewest significant digits that still read back as
the same double; of the candidates with that many digits the one nearest to the double is
taken, and of two equally near ones the larger.

The reals that read back as a double form an interval around it that contains its ends exactly
when the mantissa is even. For each count of digits the two decimals next to the double are
tried against that interval.
-/

namespace ContractGateway

/-- A decimal number: `digits * 10 ^ exponent`. -/
structure Decimal where
  digits : Nat
  exponent : Int
  deriving DecidableEq, Repr

namespace Decimal

/-- The same number without trailing zeros among its digits. -/
def dropTrailingZeros : (fuel : Nat) → Decimal → Decimal
  | 0, decimal => decimal
  | fuel + 1, decimal =>
      if decimal.digits ≠ 0 ∧ decimal.digits % 10 = 0 then
        dropTrailingZeros fuel ⟨decimal.digits / 10, decimal.exponent + 1⟩
      else decimal

/-- The number of digits behind the decimal point. -/
def places (decimal : Decimal) : Nat := (-decimal.exponent).toNat

/-- The number times `10 ^ decimals`, cut to an integer when places remain. -/
def scaled (decimal : Decimal) (decimals : Nat) : Nat :=
  let exponent := decimal.exponent + decimals
  decimal.digits * 10 ^ exponent.toNat / 10 ^ (-exponent).toNat

/-- Positional text: never an exponent, and no point when there are no places. -/
def toText (decimal : Decimal) : String :=
  if decimal.exponent ≥ 0 then
    toString (decimal.digits * 10 ^ decimal.exponent.toNat)
  else
    let unit := 10 ^ decimal.places
    let fraction := toString (decimal.digits % unit)
    toString (decimal.digits / unit) ++ "." ++
      String.ofList (List.replicate (decimal.places - fraction.length) '0') ++ fraction

end Decimal

namespace Shortest

/-- The reals that read back as one double, over a common denominator. -/
structure Interval where
  value : Nat
  low : Nat
  high : Nat
  denominator : Nat
  closed : Bool

/-- The interval around a finite positive double, in quarters of its last place. -/
def Interval.around (number : Binary64) : Interval :=
  let mantissa := number.mantissa
  let (up, down) := Binary64.powerOfTwo (number.scale - 2)
  let narrow := number.fraction = 0 ∧ 1 < number.exponentField
  { value := 4 * mantissa * up
    low := (4 * mantissa - if narrow then 1 else 2) * up
    high := (4 * mantissa + 2) * up
    denominator := down
    closed := mantissa % 2 = 0 }

/-- Whether `digits * 10 ^ exponent` lies in the interval. -/
def Interval.holds (interval : Interval) (decimal : Decimal) : Bool :=
  let point := decimal.digits * 10 ^ decimal.exponent.toNat * interval.denominator
  let unit := 10 ^ (-decimal.exponent).toNat
  if interval.closed then interval.low * unit ≤ point && point ≤ interval.high * unit
  else interval.low * unit < point && point < interval.high * unit

/-- The candidate on the grid `10 ^ exponent`, if one of the two next to the double fits. -/
def Interval.candidate? (interval : Interval) (exponent : Int) : Option Decimal :=
  let grid := interval.denominator * 10 ^ exponent.toNat
  let point := interval.value * 10 ^ (-exponent).toNat
  let below : Decimal := ⟨point / grid, exponent⟩
  let above : Decimal := ⟨point / grid + 1, exponent⟩
  match interval.holds below, interval.holds above with
  | true, true => if 2 * (point % grid) < grid then some below else some above
  | true, false => some below
  | false, true => some above
  | false, false => none

/-- The least count of digits before the point of a positive fraction below one. -/
def leadingZeros (value denominator : Nat) : (fuel : Nat) → Nat
  | 0 => 0
  | fuel + 1 =>
      if value * 10 < denominator then leadingZeros (value * 10) denominator fuel + 1 else 0

/-- The exponent `e` with `10 ^ (e - 1) ≤ value < 10 ^ e`. -/
def Interval.magnitude (interval : Interval) : Int :=
  if interval.denominator ≤ interval.value then
    (Nat.toDigits 10 (interval.value / interval.denominator)).length
  else
    -(leadingZeros interval.value interval.denominator 400 : Int)

/-- Tries one digit more at a time, starting with `count`. -/
def Interval.search (interval : Interval) (magnitude : Int) :
    (fuel count : Nat) → Decimal
  | 0, count => ⟨interval.value / interval.denominator, count⟩
  | fuel + 1, count =>
      match interval.candidate? (magnitude - count) with
      | some decimal => decimal
      | none => search interval magnitude fuel (count + 1)

/-- The shortest decimal that reads back as a finite positive double. -/
def decimal (number : Binary64) : Decimal :=
  let interval := Interval.around number
  (interval.search interval.magnitude 17 1).dropTrailingZeros 400

end Shortest

/-- The text of a double: shortest digits in positional notation. -/
def Binary64.toText (number : Binary64) : String :=
  if number.isNaN then "NaN"
  else
    let sign := if number.isNegative then "-" else ""
    if !number.isFinite then sign ++ "inf"
    else if number.isZero then sign ++ "0"
    else sign ++ (Shortest.decimal number).toText

end ContractGateway
