import ContractGateway.Proofs.Transaction.Submissions

/-!
# The nonces of a parallel sequence

Writes of one sender that carry no nonce are numbered from the sender's pending nonce on, and
writes that carry one are sent with it and do not count. `Submissions.numbers` says so for every
run, in the order of the writes. The numbers are distinct among themselves, so a nonce is sent twice
exactly when the carried ones repeat or fall among the numbers. Nothing keeps them from that.
-/

namespace ContractGateway

variable {σ : Type}

/-- The nonce that a transaction carries if it is one of a sender. -/
def TransactionRequest.nonceOf? (sender : Address) (request : TransactionRequest) : Option Nat :=
  if request.sender = some sender then request.nonce else none

@[simp] theorem Client.nonceOf?_outgoing
    (client : Client σ)
    (write : PreparedWrite)
    (assigned : Option Nat)
    (limit : Nat)
    (pricing : Pricing)
    (sender : Address) :
    (client.outgoing write assigned limit pricing).nonceOf? sender =
      if client.sender write = some sender then assigned <|> write.options.nonce else none := rfl

/-- The nonces that are sent for one sender, in order. -/
def sentNonces (sender : Address) (exchanges : List Exchange) : List Nat :=
  (sentRequests exchanges).filterMap (TransactionRequest.nonceOf? sender)

/-- The nonce that the ledger gave for a sender. -/
def Exchange.pendingNonce? (sender : Address) : Exchange → Option Nat
  | ⟨_, .pendingNonce account, .ok nonce⟩ => if account = sender then some nonce else none
  | _ => none

/-- The nonces that the ledger gave for a sender, in order. -/
def pendingNonces (sender : Address) (exchanges : List Exchange) : List Nat :=
  exchanges.filterMap (Exchange.pendingNonce? sender)

@[simp] theorem sentNonces_append
    (sender : Address)
    (first second : List Exchange) :
    sentNonces sender (first ++ second) = sentNonces sender first ++ sentNonces sender second := by
  simp [sentNonces]

@[simp] theorem pendingNonces_append
    (sender : Address)
    (first second : List Exchange) :
    pendingNonces sender (first ++ second) =
      pendingNonces sender first ++ pendingNonces sender second :=
  List.filterMap_append

theorem Exchange.pendingNonce?_eq_none_of_isQuiet
    {exchange : Exchange}
    (sender : Address)
    (quiet : exchange.call.isQuiet = true) :
    exchange.pendingNonce? sender = none := by
  rcases exchange with ⟨time, call, answer⟩
  cases call with
  | pendingNonce account =>
      cases quiet
  | _ =>
      rfl

theorem Quiet.pendingNonces_eq_nil
    {exchanges : List Exchange}
    (quiet : Quiet exchanges)
    (sender : Address) :
    pendingNonces sender exchanges = [] := by
  rw [pendingNonces, List.filterMap_eq_nil_iff]
  intro exchange member
  exact Exchange.pendingNonce?_eq_none_of_isQuiet sender (quiet exchange member)

theorem Attempt.pendingNonces_eq_nil
    {client : Client σ}
    {write : PreparedWrite}
    {assigned : Option Nat}
    {exchanges : List Exchange}
    {result : Except GatewayError Handle}
    (attempt : Attempt client write assigned exchanges result)
    (sender : Address) :
    pendingNonces sender exchanges = [] := by
  cases attempt with
  | unsent _ _ quiet =>
      exact quiet.pendingNonces_eq_nil sender
  | refused before time limit pricing cause quiet =>
      rw [pendingNonces_append, quiet.pendingNonces_eq_nil]
      rfl
  | accepted before time limit pricing hash quiet =>
      rw [pendingNonces_append, quiet.pendingNonces_eq_nil]
      rfl

section Numbering

variable (client : Client σ) (sender : Address)

/-- The nonces that writes of a sender carry. -/
def explicitNonces (writes : List PreparedWrite) : List Nat :=
  writes.filterMap fun write =>
    if client.sender write = some sender then write.options.nonce else none

/-- How many writes of a sender carry no nonce. -/
def automaticWrites (writes : List PreparedWrite) : Nat :=
  writes.countP fun write => client.sender write = some sender ∧ write.options.nonce = none

/--
The nonces of a sender's writes when those that carry none are numbered from a first one on and the
others keep theirs.
-/
def numbered : (first : Nat) → List PreparedWrite → List Nat
  | _, [] => []
  | first, write :: rest =>
      if client.sender write = some sender then
        match write.options.nonce with
        | some nonce => nonce :: numbered first rest
        | none => first :: numbered (first + 1) rest
      else numbered first rest

/-- Carried nonces and numbers are all the nonces there are. -/
theorem numbered_perm
    (first : Nat)
    (writes : List PreparedWrite) :
    (numbered client sender first writes).Perm
      (explicitNonces client sender writes ++
        List.range' first (automaticWrites client sender writes)) := by
  induction writes generalizing first with
  | nil =>
      exact .nil
  | cons write rest inductionHypothesis =>
      rw [numbered, explicitNonces, automaticWrites, List.filterMap_cons, List.countP_cons,
        ← explicitNonces, ← automaticWrites]
      by_cases own : client.sender write = some sender
      · cases carried : write.options.nonce with
        | some nonce =>
            simpa [own, carried] using inductionHypothesis first
        | none =>
            have counted :
                List.range' first (automaticWrites client sender rest + 1) =
                  first :: List.range' (first + 1) (automaticWrites client sender rest) :=
              List.range'_succ
            simpa [own, carried, counted] using
              ((inductionHypothesis (first + 1)).cons first).trans List.perm_middle.symm
      · simpa [own] using inductionHypothesis first

end Numbering

/--
How the numbers of a sender begin: after the known ones, with the only answer of the ledger, or not
at all, when no write needs one.
-/
inductive Begins (first : Nat) :
    (known : Option Nat) → (answers : List Nat) → (count : Nat) → Prop where
  | known (count : Nat) : Begins first (some first) [] count
  | asked (count : Nat) : Begins first none [first] count
  | idle : Begins first none [] 0

/-- Where nothing is sent, nothing need be known. -/
theorem Begins.exists_of_nothing (known : Option Nat) : ∃ first, Begins first known [] 0 := by
  cases known with
  | none =>
      exact ⟨0, .idle⟩
  | some first =>
      exact ⟨first, .known 0⟩

/-- The turn of a write: what is known for a sender before and after it, and what it is given. -/
inductive Turn
    (client : Client σ)
    (sender : Address)
    (write : PreparedWrite) :
    (known : Option Nat) → (answers : List Nat) → (assigned later : Option Nat) → Prop where
  | foreign
      (known assigned : Option Nat)
      (other : client.sender write ≠ some sender) :
      Turn client sender write known [] assigned known
  | carried
      (known : Option Nat)
      (nonce : Nat)
      (own : client.sender write = some sender)
      (carries : write.options.nonce = some nonce) :
      Turn client sender write known [] none known
  | continued
      (nonce : Nat)
      (own : client.sender write = some sender)
      (unset : write.options.nonce = none) :
      Turn client sender write (some nonce) [] (some nonce) (some (nonce + 1))
  | begun
      (nonce : Nat)
      (own : client.sender write = some sender)
      (unset : write.options.nonce = none) :
      Turn client sender write none [nonce] (some nonce) (some (nonce + 1))

/-- An assignment is a turn for every sender. -/
theorem Assignment.turn
    {client : Client σ}
    {write : PreparedWrite}
    {nonces after : NonceTable}
    {asked : List Exchange}
    {assigned : Option Nat}
    (assignment : Assignment client write nonces asked (.ok (assigned, after)))
    (sender : Address) :
    Turn client sender write (nonces.lookup sender) (pendingNonces sender asked) assigned
      (after.lookup sender) := by
  cases assignment with
  | carried nonce carries =>
      by_cases own : client.sender write = some sender
      · exact .carried _ nonce own carries
      · exact .foreign _ _ own
  | senderless unset noSender =>
      exact .foreign _ _ (by simp [noSender])
  | continued account nonce unset sends known =>
      by_cases own : account = sender
      · subst own
        rw [known, List.lookup_cons_self]
        exact .continued nonce sends unset
      · rw [List.lookup_cons, beq_false_of_ne (Ne.symm own)]
        exact .foreign _ _ (by simp [sends, own])
  | begun account time nonce unset sends unknown =>
      by_cases own : account = sender
      · subst own
        have answered :
            pendingNonces account [⟨time, .pendingNonce account, .ok nonce⟩] = [nonce] := by
          simp [pendingNonces, Exchange.pendingNonce?]
        rw [unknown, List.lookup_cons_self, answered]
        exact .begun nonce sends unset
      · have unanswered :
            pendingNonces sender [⟨time, .pendingNonce account, .ok nonce⟩] = [] := by
          simp [pendingNonces, Exchange.pendingNonce?, own]
        rw [List.lookup_cons, beq_false_of_ne (Ne.symm own), unanswered]
        exact .foreign _ _ (by simp [sends, own])

namespace Turn

variable
  {client : Client σ} {sender : Address} {write : PreparedWrite} {known assigned later : Option Nat}
  {answers : List Nat}

/-- A turn whose write is not sent. -/
theorem begins_unsent (turn : Turn client sender write known answers assigned later) :
    ∃ first, Begins first known answers 0 := by
  cases turn with
  | foreign assigned other =>
      exact Begins.exists_of_nothing known
  | carried nonce own carries =>
      exact Begins.exists_of_nothing known
  | continued nonce own unset =>
      exact ⟨nonce, .known 0⟩
  | begun nonce own unset =>
      exact ⟨nonce, .asked 0⟩

/-- A turn whose write is sent puts its nonce in front of the later ones. -/
theorem begins_sent
    {first : Nat}
    {more : List Nat}
    {rest : List PreparedWrite}
    (turn : Turn client sender write known answers assigned later)
    (begins : Begins first later more (automaticWrites client sender rest))
    (limit : Nat)
    (pricing : Pricing) :
    ∃ start,
      Begins start known (answers ++ more) (automaticWrites client sender (write :: rest)) ∧
        numbered client sender start (write :: rest) =
          ((client.outgoing write assigned limit pricing).nonceOf? sender).toList ++
            numbered client sender first rest := by
  have counted :
      automaticWrites client sender (write :: rest) =
        automaticWrites client sender rest +
          if client.sender write = some sender ∧ write.options.nonce = none then 1 else 0 := by
    simp [automaticWrites, List.countP_cons]
  rw [counted]
  cases turn with
  | foreign _ _ other =>
      exact ⟨first, by simpa [other] using begins, by simp [numbered, other]⟩
  | carried _ nonce own carries =>
      exact ⟨first, by simpa [carries] using begins, by simp [numbered, own, carries]⟩
  | continued nonce own unset =>
      cases begins with
      | known =>
          exact ⟨nonce, .known _, by simp [numbered, own, unset]⟩
  | begun nonce own unset =>
      cases begins with
      | known =>
          exact ⟨nonce, .asked _, by simp [numbered, own, unset]⟩

end Turn

/-- The writes that a run hands to the ledger are the first ones. -/
def attempted (writes : List PreparedWrite) (exchanges : List Exchange) : List PreparedWrite :=
  writes.take (sentRequests exchanges).length

/--
The nonces sent for a sender are those of the attempted writes, numbered from one first number on
when they carry none.
-/
def Numbers
    (client : Client σ)
    (sender : Address)
    (known : Option Nat)
    (writes : List PreparedWrite)
    (exchanges : List Exchange) : Prop :=
  ∃ first,
    Begins first known (pendingNonces sender exchanges)
        (automaticWrites client sender (attempted writes exchanges)) ∧
      sentNonces sender exchanges = numbered client sender first (attempted writes exchanges)

namespace Numbers

variable
  {client : Client σ} {sender : Address} {known : Option Nat} {writes : List PreparedWrite}

theorem unsent
    {exchanges : List Exchange}
    (unsent : sentRequests exchanges = [])
    (begins : ∃ first, Begins first known (pendingNonces sender exchanges) 0) :
    Numbers client sender known writes exchanges := by
  obtain ⟨first, begins⟩ := begins
  refine ⟨first, ?_, ?_⟩
  · simpa [attempted, unsent, automaticWrites] using begins
  · simp [attempted, unsent, sentNonces, numbered]

/-- A write that is sent is numbered in front of the later ones. -/
theorem sent
    {write : PreparedWrite}
    {rest : List PreparedWrite}
    {nonces after : NonceTable}
    {asked exchanges later : List Exchange}
    {assigned : Option Nat}
    {limit : Nat}
    {pricing : Pricing}
    (assignment : Assignment client write nonces asked (.ok (assigned, after)))
    (onlySent : sentRequests exchanges = [client.outgoing write assigned limit pricing])
    (nothingAsked : pendingNonces sender exchanges = [])
    (numbers : Numbers client sender (after.lookup sender) rest later) :
    Numbers client sender (nonces.lookup sender) (write :: rest)
      (asked ++ exchanges ++ later) := by
  obtain ⟨first, begins, numbered⟩ := numbers
  obtain ⟨start, begins, inFront⟩ := (assignment.turn sender).begins_sent begins limit pricing
  have attemptedWrites :
      attempted (write :: rest) (asked ++ exchanges ++ later) = write :: attempted rest later := by
    simp [attempted, assignment.sentRequests_eq_nil, onlySent]
  have silent : sentNonces sender asked = [] := by
    rw [sentNonces, assignment.sentRequests_eq_nil, List.filterMap_nil]
  have carried :
      sentNonces sender exchanges =
        ((client.outgoing write assigned limit pricing).nonceOf? sender).toList := by
    rw [sentNonces, onlySent, List.filterMap_cons, List.filterMap_nil]
    cases (client.outgoing write assigned limit pricing).nonceOf? sender <;> rfl
  refine ⟨start, ?_, ?_⟩
  · rw [attemptedWrites]
    simpa [nothingAsked] using begins
  · rw [attemptedWrites, inFront, ← numbered, ← carried]
    simp [silent]

end Numbers

/-- For every sender, a run numbers the writes without a nonce, in the order of the writes. -/
theorem Submissions.numbers
    {client : Client σ}
    {index : Nat}
    {nonces : NonceTable}
    {writes : List PreparedWrite}
    {exchanges : List Exchange}
    {handles : List Handle}
    {stopped : Option (Nat × StepFailure)}
    (submissions : Submissions client index nonces writes exchanges handles stopped)
    (sender : Address) :
    Numbers client sender (nonces.lookup sender) writes exchanges := by
  induction submissions with
  | done index nonces =>
      exact .unsent rfl (Begins.exists_of_nothing _)
  | unassigned index nonces write rest asked cause assignment =>
      refine .unsent assignment.sentRequests_eq_nil ?_
      cases assignment with
      | failed account time cause unset sends unknown =>
          exact Begins.exists_of_nothing _
  | unsubmitted index nonces after write rest asked exchanges assigned error assignment attempt =>
      have nothingAsked := attempt.pendingNonces_eq_nil sender
      rcases attempt.sentRequests_of_error with unsent | ⟨limit, pricing, onlySent⟩
      · refine .unsent (by simp [assignment.sentRequests_eq_nil, unsent]) ?_
        simpa [nothingAsked] using (assignment.turn sender).begins_unsent
      · have nothingLater : Numbers client sender (after.lookup sender) rest [] :=
          .unsent rfl (Begins.exists_of_nothing _)
        simpa using Numbers.sent assignment onlySent nothingAsked nothingLater
  | next index nonces after write rest asked exchanges later assigned handle handles stopped
      assignment attempt submissions inductionHypothesis =>
      obtain ⟨limit, pricing, onlySent⟩ := attempt.sentRequests_of_ok
      exact .sent assignment onlySent (attempt.pendingNonces_eq_nil sender) inductionHypothesis

/--
The nonces sent for a sender are distinct exactly when the carried ones are and none of them lies
among the numbers that the other writes are given.
-/
theorem Numbers.nodup_iff
    {client : Client σ}
    {sender : Address}
    {writes : List PreparedWrite}
    {exchanges : List Exchange}
    (numbers : Numbers client sender none writes exchanges) :
    (sentNonces sender exchanges).Nodup ↔
      (explicitNonces client sender (attempted writes exchanges)).Nodup ∧
        ∀ first ∈ pendingNonces sender exchanges,
          ∀ nonce ∈ explicitNonces client sender (attempted writes exchanges),
            nonce < first ∨
              first + automaticWrites client sender (attempted writes exchanges) ≤ nonce := by
  obtain ⟨first, begins, numbered⟩ := numbers
  rw [numbered, (numbered_perm client sender first _).nodup_iff, List.nodup_append]
  generalize pendingNonces sender exchanges = answers at begins ⊢
  generalize automaticWrites client sender (attempted writes exchanges) = count at begins ⊢
  cases begins with
  | asked =>
      have apart (nonce : Nat) :
          (∀ number ∈ List.range' first count, nonce ≠ number) ↔
            nonce < first ∨ first + count ≤ nonce := by
        simp only [List.mem_range'_1]
        constructor
        · intro different
          by_cases below : nonce < first
          · exact .inl below
          · have notAmong := different nonce
            omega
        · rintro outside number among rfl
          omega
      simp only [apart, List.mem_singleton, forall_eq]
      simp [List.nodup_range']
  | idle =>
      simp

/--
In a parallel sequence the nonces sent for a sender are distinct exactly when the explicit ones
among them are and none of these lies among the numbers that the sender's other writes are given.
-/
theorem Client.submitSequence_nonces_nodup_iff
    (client : Client σ)
    (timeout : Nat)
    (writes : List PreparedWrite)
    (world : World σ) :
    ∃ exchanges : List Exchange,
      (client.submitSequence .parallel timeout writes world).2.history =
          world.history ++ exchanges ∧
        ∀ sender : Address,
          (sentNonces sender exchanges).Nodup ↔
            (explicitNonces client sender (attempted writes exchanges)).Nodup ∧
              ∀ first ∈ pendingNonces sender exchanges,
                ∀ nonce ∈ explicitNonces client sender (attempted writes exchanges),
                  nonce < first ∨
                    first + automaticWrites client sender (attempted writes exchanges) ≤
                      nonce := by
  obtain ⟨_, added, submitting, waiting, steps, stopped, rfl, -, submissions, quiet, -⟩ :=
    client.yields_submitParallel timeout writes world
  refine ⟨submitting ++ waiting, added, fun sender => ?_⟩
  have numbers := (submissions.numbers sender).nodup_iff
  simpa [attempted, sentNonces, quiet.sentRequests_eq_nil, quiet.pendingNonces_eq_nil] using numbers

/-- A ledger that takes every transaction and always gives the same nonce. -/
def steadyLedger : Ledger Unit where
  defaultSender := some 0xa1
  answer
    | .pendingNonce _, _, state => (.ok 7, state)
    | .send _, _, state => (.ok 1, state)
    | .receipt _, _, state => (.ok none, state)
    | _, _, state => (.error .nullResponse, state)

/-- A write of the default sender that is sent without a dry run. -/
def steadyWrite (nonce : Option Nat) : PreparedWrite where
  target := 0x10
  label := "write"
  calldata := []
  options := { nonce := nonce, gasLimit := some 90000, fees := .fixed (.legacy 1) }

/-- A carried nonce that is also the sender's pending one is sent twice. -/
theorem steadyLedger_sends_twice :
    let client : Client Unit := { ledger := steadyLedger, config := {} }
    let writes := [steadyWrite (some 7), steadyWrite none]
    let run := client.submitSequence .parallel 0 writes (World.start ())
    explicitNonces client 0xa1 writes = [7] ∧ sentNonces 0xa1 run.2.history = [7, 7] := by
  decide +kernel

end ContractGateway
