import ContractGateway.Text.Wording
import ContractGateway.Transport.Error

/-!
# Kinds of node failures

Node implementations word their failures freely. The kind of a failure is read off the wordings
that occur in its text; of several kinds the first in the order of `wordingKind` is meant. A
failed receipt query of a transient kind is worth repeating.

`backoff` is the pause after a run of failed queries: it doubles each time, up to thirty
seconds.
-/

namespace ContractGateway

/-- What a node failure means to the caller. -/
inductive FailureKind where
  | reverted
  | nonceTooLow
  | nonceTooHigh
  | replacementUnderpriced
  | insufficientFunds
  | intrinsicGasTooLow
  | network
  | alreadyKnown
  | unknown
  deriving DecidableEq, Repr

namespace FailureKind

/-- Whether repeating the same query may succeed. -/
def isTransient : FailureKind → Bool
  | .network | .unknown => true
  | _ => false

/-- Whether the call or transaction was reverted. -/
def isRevert : FailureKind → Bool
  | .reverted => true
  | _ => false

/-- Whether one of several wordings occurs in lower-cased characters. -/
def anyOf (characters : List Char) (wordings : List String) : Bool :=
  wordings.any fun wording => Text.contains wording.toList characters

/-- The kind of a failure by its lower-cased wording. -/
def wordingKind (characters : List Char) : FailureKind :=
  let mentions := anyOf characters
  if mentions ["execution reverted", "revert", "invalid opcode"] then .reverted
  else if mentions ["nonce too low", "nonce is too low"] ||
      (mentions ["invalid nonce"] && mentions ["too low", "expected"]) then .nonceTooLow
  else if mentions ["nonce too high", "nonce is too high", "nonce gap"] then .nonceTooHigh
  else if mentions ["replacement transaction underpriced", "underpriced",
      "max fee per gas less than block base fee"] then .replacementUnderpriced
  else if mentions ["insufficient funds", "insufficient balance", "exceeds balance"] then
    .insufficientFunds
  else if mentions ["intrinsic gas too low", "gas limit too low", "out of gas"] then
    .intrinsicGasTooLow
  else if mentions ["already known", "already imported", "known transaction"] then .alreadyKnown
  else if mentions ["connection", "timeout", "timed out", "network", "transport", "eof",
      "broken pipe"] then .network
  else .unknown

/-- The kind of a failure by its text. -/
def ofMessage (text : String) : FailureKind := wordingKind (Text.folded text)

/--
The kind of a transport error. An error answer that carries data and speaks of a revert is a
revert whatever else it says; otherwise the text decides.
-/
def ofError (error : TransportError) : FailureKind :=
  match error with
  | .response _ message (some _) =>
      if Text.mentions message "revert" then .reverted else ofMessage error.message
  | _ => ofMessage error.message

end FailureKind

/-- The longest pause between two queries, in milliseconds. -/
def longestBackoff : Nat := 30000

/-- The largest number that fits 64 bits. -/
def maxU64 : Nat := 2 ^ 64 - 1

/--
The pause after `failures` earlier failures in a row, in milliseconds. The power and the product
stop at the largest 64-bit number.
-/
def backoff (failures base : Nat) : Nat :=
  let power := if failures < 64 then 2 ^ failures else maxU64
  min (min (base * power) maxU64) longestBackoff

end ContractGateway
