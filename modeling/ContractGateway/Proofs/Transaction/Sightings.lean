import ContractGateway.Proofs.Transaction.Waiting

/-!
# What a wait makes of the receipts it sees

A poll that was answered with a successful receipt may still need the newest block. When that
lookup fails, the poll counts as failed and its receipt is forgotten: `PollRecord.kept?` is what is
left of it. A wait times out exactly when its polls leave nothing, so it may time out although
the transaction was seen. `LosesSightings` is when that happens.
-/

namespace ContractGateway

namespace Exchange

/-- The receipt that a query was answered with. -/
def receipt? : Exchange → Option Receipt
  | ⟨_, .receipt _, .ok found⟩ => found
  | _ => none

/-- The newest block could not be looked up. -/
def isFailedHead : Exchange → Bool
  | ⟨_, .blockNumber, .error _⟩ => true
  | _ => false

end Exchange

namespace PollRecord

/-- The receipt that the poll was answered with. -/
def seen? (poll : PollRecord) : Option Receipt :=
  poll.exchanges.findSome? Exchange.receipt?

/-- The poll looked up the newest block, in vain. -/
def headFailed (poll : PollRecord) : Bool :=
  poll.exchanges.any Exchange.isFailedHead

/-- The receipt that the poll hands on: a failed head lookup takes it away. -/
def kept? (poll : PollRecord) : Option Receipt :=
  if poll.headFailed then none else poll.seen?

/-- A receipt that is handed on was seen. -/
theorem seen?_of_kept?
    {poll : PollRecord}
    {receipt : Receipt}
    (kept : poll.kept? = some receipt) :
    poll.seen? = some receipt := by
  rw [kept?] at kept
  split at kept
  · cases kept
  · exact kept

end PollRecord

theorem Poll.ofReceipt_eq_some
    {required : Nat}
    {receipt : Receipt}
    {found : Poll}
    (settles : Poll.ofReceipt required receipt = some found) :
    found = .settled (.reverted receipt) ∨ found = .settled (.confirmed receipt) := by
  rw [Poll.ofReceipt] at settles
  split at settles
  · exact .inl (Option.some.inj settles).symm
  · split at settles
    · exact .inr (Option.some.inj settles).symm
    · cases settles

/-- A receipt whose fate is open is a successful one. -/
theorem Poll.succeeded_of_ofReceipt_eq_none
    {required : Nat}
    {receipt : Receipt}
    (unsettled : Poll.ofReceipt required receipt = none) :
    receipt.succeeded = true := by
  rw [Poll.ofReceipt] at unsettled
  split at unsettled
  · cases unsettled
  · rename_i succeeded
    simpa using succeeded

theorem Poll.ofDepth_cases
    (required : Nat)
    (receipt : Receipt)
    (head : Nat) :
    Poll.ofDepth required receipt head = .settled (.confirmed receipt) ∨
      Poll.ofDepth required receipt head = .included receipt := by
  rw [Poll.ofDepth]
  split
  · exact .inl rfl
  · exact .inr rfl

namespace PollRecord

/-- What a poll finds rests on the receipt. -/
inductive RestsOn (receipt : Receipt) : Poll → Prop where
  | reverted : RestsOn receipt (.settled (.reverted receipt))
  | confirmed : RestsOn receipt (.settled (.confirmed receipt))
  | included : RestsOn receipt (.included receipt)

/-- What a poll finds rests on no receipt. -/
inductive RestsOnNone : Poll → Prop where
  | absent : RestsOnNone .absent
  | failed (cause : TransportError) : RestsOnNone (.failed cause)

/--
A poll either keeps the receipt that it saw, and what it finds rests on it, or it keeps nothing, and
then it saw a successful receipt at most.
-/
theorem Made.kept_or_lost
    {config : ConfirmationConfig}
    {hash : Hash}
    {poll : PollRecord}
    (made : poll.Made config hash) :
    (∃ receipt, poll.kept? = some receipt ∧ RestsOn receipt poll.found) ∨
      (poll.kept? = none ∧
        RestsOnNone poll.found ∧
          ∀ receipt, poll.seen? = some receipt → receipt.succeeded = true) := by
  obtain ⟨began, exchanges, found, ended⟩ := poll
  change Poll.Made _ hash exchanges found at made
  cases made with
  | unanswered time cause =>
      exact .inr ⟨rfl, .failed cause, by rintro receipt ⟨⟩⟩
  | absent time =>
      exact .inr ⟨rfl, .absent, by rintro receipt ⟨⟩⟩
  | settled time receipt found settles =>
      refine .inl ⟨receipt, rfl, ?_⟩
      rcases Poll.ofReceipt_eq_some settles with rfl | rfl
      · exact .reverted
      · exact .confirmed
  | headless time later receipt cause unsettled =>
      refine .inr ⟨rfl, .failed cause, ?_⟩
      rintro seen ⟨⟩
      exact Poll.succeeded_of_ofReceipt_eq_none unsettled
  | measured time later receipt head unsettled =>
      refine .inl ⟨receipt, rfl, ?_⟩
      rcases Poll.ofDepth_cases (max config.confirmations 1) receipt head with depth | depth
      · rw [depth]
        exact .confirmed
      · rw [depth]
        exact .included

/-- A poll that settles its wait keeps a receipt and settles on a final outcome. -/
theorem Made.kept_of_settled
    {config : ConfirmationConfig}
    {hash : Hash}
    {poll : PollRecord}
    {outcome : Outcome}
    (made : poll.Made config hash)
    (settled : poll.found = .settled outcome) :
    poll.kept? ≠ none ∧ outcome.isTerminal = true := by
  rcases made.kept_or_lost with ⟨receipt, kept, rests⟩ | ⟨-, rests, -⟩
  · rw [settled] at rests
    refine ⟨by simp [kept], ?_⟩
    cases rests <;> rfl
  · rw [settled] at rests
    cases rests

/-- After a poll that settles nothing, the receipt that it kept is remembered. -/
theorem Made.seen_after
    {config : ConfirmationConfig}
    {hash : Hash}
    {poll : PollRecord}
    (made : poll.Made config hash)
    (unsettled : poll.found.settled? = none)
    (watch : Watch) :
    (watch.after poll.found).seen = (poll.kept? <|> watch.seen) := by
  rcases made.kept_or_lost with ⟨receipt, kept, rests⟩ | ⟨lost, rests, -⟩
  · rw [kept]
    generalize poll.found = found at rests unsettled
    cases rests with
    | reverted => cases unsettled
    | confirmed => cases unsettled
    | included => rfl
  · rw [lost]
    generalize poll.found = found at rests
    cases rests <;> rfl

end PollRecord

theorem Outcome.unsettled_eq_timedOut_iff (seen : Option Receipt) :
    Outcome.unsettled seen = .timedOut ↔ seen = none := by
  cases seen <;> simp [unsettled]

/-- The last receipt that polls keep, else the one that was seen before them. -/
def lastKept : (seen : Option Receipt) → List PollRecord → Option Receipt
  | seen, [] => seen
  | seen, poll :: rest => lastKept (poll.kept? <|> seen) rest

theorem lastKept_eq_none_iff
    (seen : Option Receipt)
    (polls : List PollRecord) :
    lastKept seen polls = none ↔ seen = none ∧ ∀ poll ∈ polls, poll.kept? = none := by
  induction polls generalizing seen with
  | nil =>
      simp [lastKept]
  | cons poll rest inductionHypothesis =>
      simp [lastKept, inductionHypothesis, and_comm, and_assoc]

/-- What is kept in the end was seen by a poll, unless it was seen before them. -/
theorem seen_of_lastKept
    {seen : Option Receipt}
    {polls : List PollRecord}
    {receipt : Receipt}
    (kept : lastKept seen polls = some receipt) :
    seen = some receipt ∨ ∃ poll ∈ polls, poll.seen? = some receipt := by
  induction polls generalizing seen with
  | nil =>
      exact .inl kept
  | cons poll rest inductionHypothesis =>
      rcases inductionHypothesis kept with now | ⟨later, member, sees⟩
      · cases keeps : poll.kept? with
        | none =>
            rw [keeps] at now
            exact .inl now
        | some found =>
            rw [keeps] at now
            obtain rfl : found = receipt := Option.some.inj now
            exact .inr ⟨poll, by simp, PollRecord.seen?_of_kept? keeps⟩
      · exact .inr ⟨later, by simp [member], sees⟩

namespace Watch.Course

variable
  {config : ConfirmationConfig} {hash : Hash} {deadline fuel now : Nat} {watch : Watch}
  {polls : List PollRecord} {outcome : Outcome}

theorem made
    (course : Course config hash deadline fuel now watch polls outcome) :
    ∀ poll ∈ polls, poll.Made config hash := by
  induction course with
  | exhausted now watch =>
      simp
  | finished fuel watch poll outcome made decision =>
      simpa using made
  | paused fuel wake watch next poll rest outcome made decision course inductionHypothesis =>
      simpa using ⟨made, inductionHypothesis⟩

/--
A wait ends with a final outcome, and then one of its polls has kept a receipt, or with the last
receipt that they have kept.
-/
theorem terminal_or_lastKept
    (course : Course config hash deadline fuel now watch polls outcome) :
    (outcome.isTerminal = true ∧ ∃ poll ∈ polls, poll.kept? ≠ none) ∨
      outcome = .unsettled (lastKept watch.seen polls) := by
  induction course with
  | exhausted now watch =>
      exact .inr rfl
  | finished fuel watch poll outcome made decision =>
      generalize found : poll.found = result at decision
      cases decision with
      | settled outcome =>
          obtain ⟨kept, terminal⟩ := made.kept_of_settled found
          exact .inl ⟨terminal, poll, by simp, kept⟩
      | ended result unsettled ending =>
          subst found
          rw [made.seen_after unsettled]
          exact .inr rfl
  | paused fuel wake watch next poll rest outcome made decision course inductionHypothesis =>
      generalize found : poll.found = result at decision
      cases decision with
      | paused result unsettled early harmless =>
          subst found
          rw [made.seen_after unsettled] at inductionHypothesis
          rcases inductionHypothesis with ⟨terminal, later, member, kept⟩ | ends
          · exact .inl ⟨terminal, later, by simp [member], kept⟩
          · exact .inr ends

/-- A wait that starts with nothing times out exactly when its polls keep nothing. -/
theorem timedOut_iff
    (course : Course config hash deadline fuel now .start polls outcome) :
    outcome = .timedOut ↔ ∀ poll ∈ polls, poll.kept? = none := by
  rcases course.terminal_or_lastKept with ⟨terminal, poll, member, kept⟩ | ends
  · constructor
    · rintro rfl
      cases terminal
    · intro nothing
      exact absurd (nothing poll member) kept
  · rw [ends, Outcome.unsettled_eq_timedOut_iff, lastKept_eq_none_iff]
    simp [start]

end Watch.Course

/-- A wait that times out has seen no receipt. -/
def SilentTimeout (polls : List PollRecord) (outcome : Outcome) : Prop :=
  outcome = .timedOut → ∀ poll ∈ polls, poll.seen? = none

/-- A wait that has seen a successful receipt ends with a final outcome or pending. -/
def KeepsSightings (polls : List PollRecord) (outcome : Outcome) : Prop :=
  (∃ poll ∈ polls, ∃ receipt, poll.seen? = some receipt ∧ receipt.succeeded = true) →
    outcome.isTerminal = false →
      ∃ receipt, outcome = .pending receipt ∧ ∃ poll ∈ polls, poll.seen? = some receipt

/-- Polls see a receipt, but every one that does fails to look up the newest block. -/
def LosesSightings (polls : List PollRecord) : Prop :=
  (∃ poll ∈ polls, poll.seen? ≠ none) ∧ ∀ poll ∈ polls, poll.kept? = none

namespace Watch.Course

variable
  {config : ConfirmationConfig} {hash : Hash} {deadline fuel now : Nat} {polls : List PollRecord}
  {outcome : Outcome}

/-- A wait times out in silence unless it loses what it has seen. -/
theorem silentTimeout_iff
    (course : Course config hash deadline fuel now .start polls outcome) :
    SilentTimeout polls outcome ↔ ¬ LosesSightings polls := by
  rw [SilentTimeout, course.timedOut_iff]
  constructor
  · rintro silent ⟨⟨poll, member, sees⟩, lost⟩
    exact sees (silent lost poll member)
  · intro keeps lost poll member
    cases sees : poll.seen? with
    | none =>
        rfl
    | some receipt =>
        exact absurd ⟨⟨poll, member, by simp [sees]⟩, lost⟩ keeps

/-- A wait hands on what it has seen unless it loses it. -/
theorem keepsSightings_iff
    (course : Course config hash deadline fuel now .start polls outcome) :
    KeepsSightings polls outcome ↔ ¬ LosesSightings polls := by
  constructor
  · rintro keeps ⟨⟨poll, member, sees⟩, lost⟩
    obtain ⟨receipt, seen⟩ := Option.ne_none_iff_exists'.mp sees
    have timedOut := course.timedOut_iff.mpr lost
    have succeeded : receipt.succeeded = true := by
      rcases (course.made poll member).kept_or_lost with ⟨other, kept, -⟩ | ⟨-, -, successful⟩
      · rw [lost poll member] at kept
        cases kept
      · exact successful receipt seen
    obtain ⟨other, pending, -⟩ :=
      keeps ⟨poll, member, receipt, seen, succeeded⟩ (by rw [timedOut]; rfl)
    rw [timedOut] at pending
    cases pending
  · rintro keeps ⟨poll, member, receipt, seen, -⟩ ongoing
    rcases course.terminal_or_lastKept with ⟨terminal, -⟩ | ends
    · rw [terminal] at ongoing
      cases ongoing
    · cases kept : lastKept Watch.start.seen polls with
      | none =>
          have lost := (lastKept_eq_none_iff _ _).mp kept
          exact absurd ⟨⟨poll, member, by simp [seen]⟩, lost.2⟩ keeps
      | some last =>
          rcases seen_of_lastKept kept with before | seen
          · cases before
          · exact ⟨last, by rw [ends, kept]; rfl, seen⟩

end Watch.Course

/--
A wait times out exactly when its polls keep no receipt. It does so in silence, and hands on what it
has seen, unless every poll that sees a receipt fails to look up the newest block.
-/
theorem Client.await_timedOut_iff
    {σ : Type}
    (client : Client σ)
    (handle : Handle)
    (timeout : Nat)
    (world : World σ) :
    ∃ polls : List PollRecord,
      (client.await handle timeout world).2.history =
          world.history ++ polls.flatMap PollRecord.exchanges ∧
        (∀ poll ∈ polls, poll.Made client.config.confirmation handle.hash) ∧
        ((client.await handle timeout world).1.outcome = .timedOut ↔
          ∀ poll ∈ polls, poll.kept? = none) ∧
        (SilentTimeout polls (client.await handle timeout world).1.outcome ↔
          ¬ LosesSightings polls) ∧
        (KeepsSightings polls (client.await handle timeout world).1.outcome ↔
          ¬ LosesSightings polls) := by
  obtain ⟨exchanges, added, -, -, polls, rfl, course⟩ := client.yields_await handle timeout world
  exact
    ⟨polls, added, course.made, course.timedOut_iff, course.silentTimeout_iff,
      course.keepsSightings_iff⟩

/-- A ledger that has a receipt for every transaction, but does not tell its newest block. -/
def headlessLedger : Ledger Unit where
  defaultSender := none
  answer
    | .receipt hash, _, state => (.ok (some ⟨hash, 101, 21000, 1, true⟩), state)
    | _, _, state =>
        (.error (.response (-32000) "insufficient balance for API credits" none), state)

/-- A client of that ledger that wants two blocks to hold a transaction. -/
def headlessClient : Client Unit :=
  { ledger := headlessLedger, config := Config.withConfirmations {} 2 }

/-- The only poll of such a client sees a successful receipt, and still the wait times out. -/
theorem headlessClient_timesOut :
    let wait := headlessClient.await ⟨1, "write", none, none⟩ 1000 (World.start ())
    wait.2.history.filterMap Exchange.receipt? = [⟨1, 101, 21000, 1, true⟩] ∧
      wait.1.outcome = .timedOut := by
  decide +kernel

end ContractGateway
