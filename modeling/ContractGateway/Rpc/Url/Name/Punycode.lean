import ContractGateway.Word

/-!
# Punycode

A text beyond ASCII can be written with letters, digits and hyphens alone. Its ASCII characters come
first, closed by a hyphen if there are any. The other characters follow in the order of their code
points as numbers, each of which tells how many places, over all texts of growing code points, lie
between one character and the next. Digits count in base thirty-six, the lowest first, and a digit
below a threshold closes a number. The thresholds follow the size of the numbers read so far.
-/

namespace ContractGateway.Rpc.Url.Name.Punycode

/-- The value of a digit: a letter, or behind the letters a decimal digit. -/
def digitValue? (digit : Char) : Option Nat :=
  if digit.isLower then some (digit.toNat - 'a'.toNat)
  else if digit.isUpper then some (digit.toNat - 'A'.toNat)
  else if digit.isDigit then some (26 + (digit.toNat - '0'.toNat))
  else none

/-- The threshold of a digit at a place counted in steps of thirty-six. -/
def threshold (place bias : Nat) : Nat := max 1 (min 26 (place - bias))

/-- How often a number is divided by thirty-five until it is at most 455, and what remains of it. -/
def scaled (number : Nat) : Nat × Nat :=
  if 455 < number then
    let (times, rest) := scaled (number / 35)
    (times + 1, rest)
  else (0, number)
termination_by number
decreasing_by exact Nat.div_lt_self (by omega) (by decide)

/-- The bias that follows a number when the text has got some length. -/
def nextBias (number length : Nat) (isFirst : Bool) : Nat :=
  let damped := if isFirst then number / 700 else number / 2
  let (times, rest) := scaled (damped + damped / length)
  36 * times + 36 * rest / (rest + 38)

/--
How far a text is decoded: its characters, where the next number starts to count, the bias, and of a
number that is still open its value, the weight of its next digit and that digit's place.
-/
structure Progress where
  text : List Char
  codePoint : Nat := 0x80
  position : Nat := 0
  bias : Nat := 72
  number : Nat := 0
  weight : Nat := 1
  place : Nat := 36
  deriving DecidableEq, Repr

namespace Progress

/-- Whether no number is open. -/
def isClosed (progress : Progress) : Bool := progress.place = 36

/-- Puts the character in place that a number stands for, unless there is no such character. -/
def insert? (progress : Progress) (number : Nat) : Option Progress :=
  let length := progress.text.length + 1
  let reached := progress.position + number
  let codePoint := progress.codePoint + reached / length
  let position := reached % length
  if codePoint.isValidChar then
    some
      { text := progress.text.insertIdx position (Char.ofNat codePoint)
        codePoint
        position := position + 1
        bias := nextBias number length (progress.position = 0) }
  else none

/-- Reads one digit. Numbers and weights stay below thirty-two bits. -/
def read? (progress : Progress) (digit : Char) : Option Progress := do
  let value ← digitValue? digit
  let number := progress.number + value * progress.weight
  let limit := threshold progress.place progress.bias
  if 2 ^ 32 ≤ progress.position + number then none
  else if value < limit then progress.insert? number
  else if 2 ^ 32 ≤ progress.weight * (36 - limit) then none
  else
    some { progress with
      number
      weight := progress.weight * (36 - limit)
      place := progress.place + 36 }

end Progress

/--
The ASCII characters at the front of an encoded text, and the digits behind them. A hyphen with
nothing before it closes nothing.
-/
def frontAndDigits (code : List Char) : List Char × List Char :=
  let digits := (code.reverse.takeWhile (· ≠ '-')).reverse
  let front := code.take (code.length - digits.length - 1)
  if front = [] then ([], code) else (front, digits)

/-- The text that a code stands for. -/
def decode? (code : List Char) : Option (List Char) := do
  let (front, digits) := frontAndDigits code
  if !front.all (·.toNat < 0x80) then none
  let progress ← digits.foldlM Progress.read? { text := front }
  if progress.isClosed then some progress.text else none

end ContractGateway.Rpc.Url.Name.Punycode
