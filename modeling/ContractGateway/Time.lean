import ContractGateway.Number.Power

/-!
# Durations and timestamps

Spans of time and points in time with a resolution of nanoseconds, in the ranges that the host
keeps them in: durations have whole seconds below `2 ^ 64`, timestamps lie within `2 ^ 63`
seconds of the epoch.
-/

namespace ContractGateway

/-- A span of time. -/
structure Duration where
  seconds : Nat
  nanos : Nat
  seconds_lt : seconds < 2 ^ 64
  nanos_lt : nanos < 10 ^ 9
  deriving DecidableEq, Repr

/-- A point in time: `seconds` after the epoch, rounded down, and the nanoseconds behind. -/
structure Timestamp where
  seconds : Int
  nanos : Nat
  seconds_ge : -2 ^ 63 ≤ seconds
  seconds_lt : seconds < 2 ^ 63
  nanos_lt : nanos < 10 ^ 9
  deriving DecidableEq, Repr

namespace Duration

/-- A whole number of seconds. -/
def ofSeconds? (seconds : Nat) : Option Duration :=
  if fits : seconds < 2 ^ 64 then some ⟨seconds, 0, fits, by decide⟩ else none

/-- A fraction of `digits` decimal digits without its trailing zeros, behind a point. -/
def fractionText (value digits : Nat) : String :=
  if value = 0 then ""
  else
    let written := (toString value).toList
    let filled := List.replicate (digits - written.length) '0' ++ written
    let kept := (filled.reverse.dropWhile (· = '0')).reverse
    "." ++ String.ofList kept

/-- A span in the largest unit of which it holds at least one whole. -/
def spanText (seconds nanos : Nat) : String :=
  if 0 < seconds then toString seconds ++ fractionText nanos 9 ++ "s"
  else if 10 ^ 6 ≤ nanos then
    toString (nanos / 10 ^ 6) ++ fractionText (nanos % 10 ^ 6) 6 ++ "ms"
  else if 10 ^ 3 ≤ nanos then
    toString (nanos / 10 ^ 3) ++ fractionText (nanos % 10 ^ 3) 3 ++ "µs"
  else toString nanos ++ "ns"

/-- The text of a duration. -/
def toText (duration : Duration) : String := spanText duration.seconds duration.nanos

end Duration

namespace Timestamp

/-- A whole number of seconds after the epoch. -/
def ofSeconds? (seconds : Nat) : Option Timestamp :=
  if fits : seconds < 2 ^ 63 then
    some ⟨seconds, 0, by omega, by omega, by decide⟩
  else none

/-- The whole seconds that a timestamp before the epoch lies before it. -/
def secondsBeforeEpoch (timestamp : Timestamp) : Nat :=
  if timestamp.nanos = 0 then (-timestamp.seconds).toNat else (-timestamp.seconds - 1).toNat

end Timestamp

end ContractGateway
