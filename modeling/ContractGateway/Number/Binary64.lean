import ContractGateway.Number.Power

/-!
# Double-precision numbers in exact arithmetic

Ratios and fee multipliers are IEEE 754 double-precision numbers. They are kept as their bit
patterns, and everything done with them is exact arithmetic on natural numbers followed by one
correct rounding, so every law about them can be stated and evaluated.

A finite number has the magnitude `mantissa * 2 ^ scale`. `roundRatio` gives the double nearest
to a positive fraction, ties to the even mantissa.
-/

namespace ContractGateway

/-- A double-precision number, by its bit pattern. -/
structure Binary64 where
  bits : BitVec 64
  deriving DecidableEq, Repr

namespace Binary64

/-- Whether the sign bit is set. -/
def isNegative (number : Binary64) : Bool := 2 ^ 63 ≤ number.bits.toNat

/-- The eleven exponent bits. -/
def exponentField (number : Binary64) : Nat := number.bits.toNat / 2 ^ 52 % 2 ^ 11

/-- The fifty-two fraction bits. -/
def fraction (number : Binary64) : Nat := number.bits.toNat % 2 ^ 52

/-- Whether the number is neither an infinity nor a NaN. -/
def isFinite (number : Binary64) : Bool := number.exponentField ≠ 2047

/-- Whether the pattern stands for no number. -/
def isNaN (number : Binary64) : Bool := number.exponentField = 2047 ∧ number.fraction ≠ 0

/-- Whether the number is zero of either sign. -/
def isZero (number : Binary64) : Bool := number.exponentField = 0 ∧ number.fraction = 0

/-- The integer mantissa of a finite number. -/
def mantissa (number : Binary64) : Nat :=
  if number.exponentField = 0 then number.fraction else number.fraction + 2 ^ 52

/-- The power of two that scales the mantissa of a finite number. -/
def scale (number : Binary64) : Int :=
  (if number.exponentField = 0 then 1 else number.exponentField : Nat) - 1075

/-- `2 ^ exponent` as a fraction of natural numbers. -/
def powerOfTwo (exponent : Int) : Nat × Nat :=
  (2 ^ exponent.toNat, 2 ^ (-exponent).toNat)

/-- Numerator of the magnitude of a finite number. -/
def numerator (number : Binary64) : Nat := number.mantissa * (powerOfTwo number.scale).1

/-- Denominator of the magnitude of a finite number. -/
def denominator (number : Binary64) : Nat := (powerOfTwo number.scale).2

/-- A pattern from the sign and the remaining bits. -/
def ofMagnitude (negative : Bool) (magnitude : Nat) : Binary64 :=
  ⟨BitVec.ofNat 64 (magnitude + if negative then 2 ^ 63 else 0)⟩

/-- The magnitude bits of an infinity. -/
def infinityBits : Nat := 2047 * 2 ^ 52

/-- The quotient rounded to the nearest natural number, a half to the even one. -/
def roundQuotient (numerator denominator : Nat) : Nat :=
  let quotient := numerator / denominator
  let twice := 2 * (numerator % denominator)
  if twice > denominator ∨ (twice = denominator ∧ quotient % 2 = 1) then quotient + 1
  else quotient

/--
The exponent of two at which a positive fraction has a mantissa of fifty-three bits, but not
below the least exponent there is.
-/
def roundingScale (numerator denominator : Nat) : Int :=
  let guess : Int := (Nat.log2 numerator : Int) - (Nat.log2 denominator : Int) - 52
  let (up, down) := powerOfTwo guess
  let fitted := if numerator * down < denominator * up * 2 ^ 52 then guess - 1 else guess
  max fitted (-1074)

/-- The magnitude bits of the double nearest to a fraction, an infinity when it is too large. -/
def roundRatio (numerator denominator : Nat) : Nat :=
  if numerator = 0 then 0
  else
    let scale := roundingScale numerator denominator
    let (up, down) := powerOfTwo scale
    let mantissa := roundQuotient (numerator * down) (denominator * up)
    min ((scale + 1074).toNat * 2 ^ 52 + mantissa) infinityBits

/-- The double nearest to a fraction of natural numbers. -/
def ofRatio (numerator denominator : Nat) : Binary64 :=
  ofMagnitude false (roundRatio numerator denominator)

/-- The double nearest to a natural number. -/
def ofNat (value : Nat) : Binary64 := ofRatio value 1

/-- A pattern that stands for no number. -/
def nan : Binary64 := ofMagnitude false (infinityBits + 2 ^ 51)

/-- The double nearest to the product. -/
def mul (left right : Binary64) : Binary64 :=
  let negative := left.isNegative != right.isNegative
  if left.isNaN || right.isNaN then nan
  else if !left.isFinite || !right.isFinite then
    if left.isZero || right.isZero then nan else ofMagnitude negative infinityBits
  else
    ofMagnitude negative
      (roundRatio (left.numerator * right.numerator) (left.denominator * right.denominator))

/--
The integer part as a natural number, held between zero and a largest value. What is no number
counts as zero.
-/
def truncate (number : Binary64) (largest : Nat) : Nat :=
  if number.isNaN || number.isNegative then 0
  else if !number.isFinite then largest
  else min (number.numerator / number.denominator) largest

end Binary64

end ContractGateway
