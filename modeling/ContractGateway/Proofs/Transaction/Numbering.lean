import ContractGateway.Proofs.Transaction.Nonces

/-!
# How a parallel sequence is numbered

The writes of a parallel sequence are handed to the ledger one after the other, and the pending
nonce of a sender is asked for where it is first needed: at the first of the sender's writes that
carries no nonce. `Due` says which nonce is due to a write behind those before it, and `Numbered`
that a write was sent with the nonce due to it.

The invariant of a run is `Knows`: the table of nonces holds, for every sender, what the ledger told
about the sender plus the number of its writes that were numbered since. Writes of other senders,
writes that carry a nonce and writes without a sender leave it as it is.
-/

namespace ContractGateway

variable {σ : Type}

/-- The nonce that the ledger told first for a sender. -/
def toldNonce (exchanges : List Exchange) (sender : Address) : Option Nat :=
  (pendingNonces sender exchanges).head?

theorem toldNonce_append
    (first second : List Exchange)
    (sender : Address) :
    toldNonce (first ++ second) sender = (toldNonce first sender <|> toldNonce second sender) := by
  simp [toldNonce, List.head?_append]

/--
The account whose pending nonce is asked for when it is a write's turn: the sender of a write that
carries no nonce, if no write of the sender before it lacked one.
-/
def Client.nonceQuery?
    (client : Client σ)
    (before : List PreparedWrite)
    (write : PreparedWrite) : Option Address :=
  match write.options.nonce, client.sender write with
  | none, some sender => if automaticWrites client sender before = 0 then some sender else none
  | _, _ => none

theorem Client.nonceQuery?_eq_some_iff
    {client : Client σ}
    {before : List PreparedWrite}
    {write : PreparedWrite}
    {sender : Address} :
    client.nonceQuery? before write = some sender ↔
      (client.sender write = some sender ∧ write.options.nonce = none) ∧
        automaticWrites client sender before = 0 := by
  unfold nonceQuery?
  cases carries : write.options.nonce with
  | some nonce =>
      simp
  | none =>
      cases sends : client.sender write with
      | none =>
          simp
      | some account =>
          by_cases own : account = sender
          · subst own
            simp
          · simp [own]

/-- A write counts if it is one of the sender's and carries no nonce. -/
theorem automaticWrites_append_singleton
    (client : Client σ)
    (sender : Address)
    (before : List PreparedWrite)
    (write : PreparedWrite) :
    automaticWrites client sender (before ++ [write]) =
      automaticWrites client sender before +
        if client.sender write = some sender ∧ write.options.nonce = none then 1 else 0 := by
  simp [automaticWrites, List.countP_append, List.countP_cons]

/-- How often the pending nonce of a sender is asked for. -/
def nonceQueries (exchanges : List Exchange) (sender : Address) : Nat :=
  (exchanges.map (·.call)).count (.pendingNonce sender)

@[simp] theorem nonceQueries_append
    (first second : List Exchange)
    (sender : Address) :
    nonceQueries (first ++ second) sender =
      nonceQueries first sender + nonceQueries second sender := by
  simp [nonceQueries]

/-- The nonce that is due to a write behind others, given the pending nonces of the senders. -/
inductive Due
    (client : Client σ)
    (pending : Address → Option Nat)
    (before : List PreparedWrite)
    (write : PreparedWrite) : Option Nat → Prop where
  /-- A write is sent with the nonce that it carries. -/
  | carried
      (nonce : Nat)
      (carries : write.options.nonce = some nonce) :
      Due client pending before write (some nonce)
  /-- A write without a sender is sent without a nonce. -/
  | senderless
      (unset : write.options.nonce = none)
      (noSender : client.sender write = none) :
      Due client pending before write none
  /-- Other writes of a sender are numbered from its pending nonce on. -/
  | numbered
      (sender : Address)
      (first : Nat)
      (unset : write.options.nonce = none)
      (sends : client.sender write = some sender)
      (told : pending sender = some first) :
      Due client pending before write (some (first + automaticWrites client sender before))

/-- A write that was handed to the ledger, with what was exchanged for it. -/
structure NumberingRecord where
  write : PreparedWrite
  /-- The query for the pending nonce, if there was one. -/
  asked : List Exchange
  /-- The dry run, the pricing and the sending. -/
  submission : List Exchange
  handle : Option Handle

namespace NumberingRecord

def exchanges (record : NumberingRecord) : List Exchange := record.asked ++ record.submission

/-- The write was sent with the nonce due to it, or not at all, and its handle says so. -/
structure Numbered
    (client : Client σ)
    (pending : Address → Option Nat)
    (before : List PreparedWrite)
    (record : NumberingRecord) : Prop where
  asks :
    record.asked.map (·.call) =
      (client.nonceQuery? before record.write).toList.map LedgerCall.pendingNonce
  asksNoMore : ∀ exchange ∈ record.submission, ∀ sender, exchange.call ≠ .pendingNonce sender
  sendsOnce : (sentRequests record.submission).length ≤ 1
  sends :
    ∀ request ∈ sentRequests record.submission,
      request.sender = client.sender record.write ∧
        Due client pending before record.write request.nonce
  issues :
    ∀ handle ∈ record.handle,
      ∃ request,
        acceptedSends record.submission = [(request, handle.hash)] ∧
          handle.sender = request.sender ∧ handle.nonce = request.nonce

/-- The query that is due is the only one. -/
theorem Numbered.nonceQueries_eq
    {client : Client σ}
    {pending : Address → Option Nat}
    {before : List PreparedWrite}
    {record : NumberingRecord}
    (numbered : record.Numbered client pending before)
    (sender : Address) :
    nonceQueries record.exchanges sender =
      if client.nonceQuery? before record.write = some sender then 1 else 0 := by
  have none : nonceQueries record.submission sender = 0 := by
    simp only [nonceQueries, List.count_eq_zero, List.mem_map, not_exists, not_and]
    exact fun exchange member => numbered.asksNoMore exchange member sender
  rw [exchanges, nonceQueries_append, none, nonceQueries, numbered.asks]
  cases client.nonceQuery? before record.write with
  | none =>
      rfl
  | some account =>
      simp [List.count_singleton]

end NumberingRecord

/-- Writes are numbered in order behind others, each one once, up to the first without a handle. -/
inductive NumberedRun
    (client : Client σ)
    (pending : Address → Option Nat) :
    (before writes : List PreparedWrite) → List NumberingRecord → Prop where
  | done (before : List PreparedWrite) : NumberedRun client pending before [] []
  | stopped
      (before rest : List PreparedWrite)
      (record : NumberingRecord)
      (numbered : record.Numbered client pending before)
      (noHandle : record.handle = none) :
      NumberedRun client pending before (record.write :: rest) [record]
  | next
      (before rest : List PreparedWrite)
      (record : NumberingRecord)
      (records : List NumberingRecord)
      (numbered : record.Numbered client pending before)
      (handled : record.handle.isSome = true)
      (run : NumberedRun client pending (before ++ [record.write]) rest records) :
      NumberedRun client pending before (record.write :: rest) (record :: records)

namespace NumberedRun

variable
  {client : Client σ} {pending : Address → Option Nat} {before writes : List PreparedWrite}
  {records : List NumberingRecord}

/-- The records are those of the first writes. -/
theorem writes_eq (run : NumberedRun client pending before writes records) :
    records.map (·.write) = writes.take records.length := by
  induction run with
  | done before =>
      rfl
  | stopped before rest record numbered noHandle =>
      rfl
  | next before rest record records numbered handled run inductionHypothesis =>
      simpa using inductionHypothesis

/-- Every write but the last one has a handle. -/
theorem handled_of_mem_dropLast
    (run : NumberedRun client pending before writes records) :
    ∀ record ∈ records.dropLast, record.handle.isSome = true := by
  induction run with
  | done before =>
      simp
  | stopped before rest record numbered noHandle =>
      simp
  | next before rest record records numbered handled run inductionHypothesis =>
      cases records with
      | nil =>
          simp
      | cons second others =>
          simpa [handled] using inductionHypothesis

/-- A run whose writes all have handles left none out. -/
theorem length_eq_of_handled
    (run : NumberedRun client pending before writes records)
    (handled : ∀ record ∈ records, record.handle.isSome = true) :
    records.length = writes.length := by
  induction run with
  | done before =>
      rfl
  | stopped before rest record numbered noHandle =>
      simp [noHandle] at handled
  | next before rest record records numbered _ run inductionHypothesis =>
      simpa using inductionHypothesis fun other member => handled other (.tail _ member)

/-- Every write is numbered behind all those before it. -/
theorem numbered
    (run : NumberedRun client pending before writes records)
    {earlier later : List NumberingRecord}
    {record : NumberingRecord}
    (split : records = earlier ++ record :: later) :
    record.Numbered client pending (before ++ earlier.map (·.write)) := by
  induction run generalizing earlier with
  | done before =>
      simp at split
  | stopped before rest only numbered noHandle =>
      cases earlier with
      | nil =>
          obtain ⟨rfl, rfl⟩ := List.cons.inj split
          simpa using numbered
      | cons second others =>
          simp at split
  | next before rest first records numbered handled run inductionHypothesis =>
      cases earlier with
      | nil =>
          obtain ⟨rfl, rfl⟩ := List.cons.inj split
          simpa using numbered
      | cons second others =>
          obtain ⟨rfl, rfl⟩ := List.cons.inj split
          simpa using inductionHypothesis rfl

/-- No pending nonce is asked for twice, and none that was asked for before. -/
theorem nonceQueries_le
    (run : NumberedRun client pending before writes records)
    (sender : Address) :
    nonceQueries (records.flatMap (·.exchanges)) sender +
        (if automaticWrites client sender before = 0 then 0 else 1) ≤ 1 := by
  induction run with
  | done before =>
      simp only [List.flatMap_nil, nonceQueries, List.map_nil, List.count_nil]
      split <;> omega
  | stopped before rest record numbered noHandle =>
      simp only [List.flatMap_cons, List.flatMap_nil, List.append_nil, numbered.nonceQueries_eq,
        Client.nonceQuery?_eq_some_iff]
      split <;> split <;> omega
  | next before rest record records numbered handled run inductionHypothesis =>
      rw [automaticWrites_append_singleton] at inductionHypothesis
      simp only [List.flatMap_cons, nonceQueries_append, numbered.nonceQueries_eq,
        Client.nonceQuery?_eq_some_iff]
      by_cases lacks : client.sender record.write = some sender ∧ record.write.options.nonce = none
      · by_cases first : automaticWrites client sender before = 0
        · have noneLater :
              nonceQueries (records.flatMap (·.exchanges)) sender = 0 := by
            simpa [lacks] using inductionHypothesis
          simp [lacks, first, noneLater]
        · simpa [lacks, first] using inductionHypothesis
      · simpa [lacks] using inductionHypothesis

end NumberedRun

/--
What a run knows when it has come behind some writes: for every sender the nonce that the ledger
told, if one of the writes needed it, and the next number in the table.
-/
structure Knows
    (client : Client σ)
    (before : List PreparedWrite)
    (known : Address → Option Nat)
    (nonces : NonceTable) : Prop where
  next :
    ∀ sender,
      nonces.lookup sender = (known sender).map (· + automaticWrites client sender before)
  needed : ∀ sender, known sender = none ↔ automaticWrites client sender before = 0

namespace Knows

variable
  {client : Client σ} {before : List PreparedWrite} {write : PreparedWrite}
  {known : Address → Option Nat} {nonces after : NonceTable} {asked : List Exchange}
  {assigned : Option Nat}

/-- Nothing is known at the beginning, and nothing needs to be. -/
theorem start (client : Client σ) : Knows client [] (fun _ => none) [] :=
  ⟨fun _ => rfl, fun _ => by simp [automaticWrites]⟩

/-- The turn of a write keeps the table in step with what is known. -/
theorem turn
    (knows : Knows client before known nonces)
    (assignment : Assignment client write nonces asked (.ok (assigned, after))) :
    Knows client (before ++ [write]) (fun sender => known sender <|> toldNonce asked sender)
      after := by
  have both (sender : Address) :
      after.lookup sender =
          (known sender <|> toldNonce asked sender).map
            (· + automaticWrites client sender (before ++ [write])) ∧
        ((known sender <|> toldNonce asked sender) = none ↔
          automaticWrites client sender (before ++ [write]) = 0) := by
    have next := knows.next sender
    have needed := knows.needed sender
    have taken := assignment.turn sender
    rw [automaticWrites_append_singleton, toldNonce]
    generalize nonces.lookup sender = entry at next taken
    generalize pendingNonces sender asked = answers at taken ⊢
    generalize after.lookup sender = later at taken ⊢
    cases taken with
    | foreign _ _ other =>
        simpa [other] using ⟨next, needed⟩
    | carried _ nonce own carries =>
        simpa [carries] using ⟨next, needed⟩
    | continued nonce own unset =>
        obtain ⟨first, told, rfl⟩ := Option.map_eq_some_iff.mp next.symm
        simp [own, unset, told, Nat.add_assoc]
    | begun nonce own unset =>
        have untold : known sender = none := Option.map_eq_none_iff.mp next.symm
        simp [own, unset, untold, needed.mp untold]
  exact ⟨fun sender => (both sender).1, fun sender => (both sender).2⟩

/-- A sender's pending nonce is asked for at the first write that needs it. -/
theorem asks
    (knows : Knows client before known nonces)
    {result : Except TransportError (Option Nat × NonceTable)}
    (assignment : Assignment client write nonces asked result) :
    asked.map (·.call) = (client.nonceQuery? before write).toList.map LedgerCall.pendingNonce := by
  cases assignment with
  | carried nonce carries =>
      simp [Client.nonceQuery?, carries]
  | senderless unset noSender =>
      simp [Client.nonceQuery?, unset, noSender]
  | continued sender nonce unset sends entry =>
      have counted : automaticWrites client sender before ≠ 0 := by
        intro none
        simp [knows.next, (knows.needed sender).mpr none] at entry
      simp [Client.nonceQuery?, unset, sends, counted]
  | begun sender time nonce unset sends unknown =>
      have untold : known sender = none := by simpa [knows.next] using unknown
      simp [Client.nonceQuery?, unset, sends, (knows.needed sender).mp untold]
  | failed sender time cause unset sends unknown =>
      have untold : known sender = none := by simpa [knows.next] using unknown
      simp [Client.nonceQuery?, unset, sends, (knows.needed sender).mp untold]

/-- What a write is given is the nonce due to it. -/
theorem due
    (knows : Knows client before known nonces)
    (assignment : Assignment client write nonces asked (.ok (assigned, after)))
    (later : List Exchange) :
    Due client (fun sender => known sender <|> toldNonce (asked ++ later) sender) before write
      (assigned <|> write.options.nonce) := by
  cases assignment with
  | carried nonce carries =>
      simpa [carries] using Due.carried nonce carries
  | senderless unset noSender =>
      simpa [unset] using Due.senderless unset noSender
  | continued sender nonce unset sends entry =>
      rw [knows.next] at entry
      obtain ⟨first, told, rfl⟩ := Option.map_eq_some_iff.mp entry
      exact .numbered sender first unset sends (by simp [told])
  | begun sender time nonce unset sends unknown =>
      have untold : known sender = none := by simpa [knows.next] using unknown
      let pending (account : Address) : Option Nat :=
        known account <|> toldNonce ([⟨time, .pendingNonce sender, .ok nonce⟩] ++ later) account
      have told : pending sender = some nonce := by
        simp [pending, untold, toldNonce, pendingNonces, Exchange.pendingNonce?]
      have due : Due client pending before write _ := .numbered sender nonce unset sends told
      simpa [pending, (knows.needed sender).mp untold] using due

end Knows

/-- A write that is given its nonce and then attempted is numbered. -/
theorem Knows.numbered
    {client : Client σ}
    {before : List PreparedWrite}
    {write : PreparedWrite}
    {known : Address → Option Nat}
    {nonces after : NonceTable}
    {asked submission : List Exchange}
    {assigned : Option Nat}
    {result : Except GatewayError Handle}
    (knows : Knows client before known nonces)
    (assignment : Assignment client write nonces asked (.ok (assigned, after)))
    (attempt : Attempt client write assigned submission result)
    (later : List Exchange) :
    NumberingRecord.Numbered client
      (fun sender => known sender <|> toldNonce (asked ++ later) sender) before
      ⟨write, asked, submission, result.toOption⟩ where
  asks := knows.asks assignment
  asksNoMore := attempt.asksNoNonce
  sendsOnce := by
    rcases attempt.sentRequests_cases with unsent | ⟨limit, pricing, sent⟩
    · simp [unsent]
    · simp [sent]
  sends := by
    intro request member
    rcases attempt.sentRequests_cases with unsent | ⟨limit, pricing, sent⟩
    · simp [unsent] at member
    · obtain rfl : request = client.outgoing write assigned limit pricing := by
        simpa [sent] using member
      exact ⟨rfl, knows.due assignment later⟩
  issues := by
    cases result with
    | error error =>
        simp [Except.toOption]
    | ok handle =>
        obtain ⟨limit, pricing, hash, accepted, rfl⟩ := attempt.acceptedSends_of_ok
        rintro _ ⟨⟩
        exact ⟨_, accepted, rfl, rfl⟩

/-- Every run of submissions numbers its writes. -/
theorem Submissions.numberedRun
    {client : Client σ}
    {index : Nat}
    {nonces : NonceTable}
    {writes before : List PreparedWrite}
    {exchanges : List Exchange}
    {handles : List Handle}
    {stopped : Option (Nat × StepFailure)}
    {known : Address → Option Nat}
    (submissions : Submissions client index nonces writes exchanges handles stopped)
    (knows : Knows client before known nonces) :
    ∃ records,
      exchanges = records.flatMap NumberingRecord.exchanges ∧
        handles = records.filterMap (·.handle) ∧
          NumberedRun client (fun sender => known sender <|> toldNonce exchanges sender) before
            writes records := by
  induction submissions generalizing before known with
  | done index nonces =>
      exact ⟨[], rfl, rfl, .done before⟩
  | unassigned index nonces write rest asked cause assignment =>
      let record : NumberingRecord := ⟨write, asked, [], none⟩
      refine ⟨[record], by simp [record, NumberingRecord.exchanges], rfl, ?_⟩
      refine .stopped before rest record ?_ rfl
      exact ⟨knows.asks assignment, by simp [record], by simp [record, sentRequests],
        by simp [record, sentRequests], by simp [record]⟩
  | unsubmitted index nonces after write rest asked submission assigned error assignment attempt =>
      let record : NumberingRecord := ⟨write, asked, submission, none⟩
      refine ⟨[record], by simp [record, NumberingRecord.exchanges], rfl, ?_⟩
      exact .stopped before rest record (knows.numbered assignment attempt submission) rfl
  | next index nonces after write rest asked submission later assigned handle handles stopped
      assignment attempt submissions inductionHypothesis =>
      obtain ⟨records, rfl, rfl, run⟩ := inductionHypothesis (knows.turn assignment)
      let record : NumberingRecord := ⟨write, asked, submission, some handle⟩
      refine ⟨record :: records, by simp [record, NumberingRecord.exchanges], rfl, ?_⟩
      have told (sender : Address) :
          (known sender <|>
              toldNonce (asked ++ submission ++ records.flatMap NumberingRecord.exchanges) sender) =
            ((known sender <|> toldNonce asked sender) <|>
              toldNonce (records.flatMap NumberingRecord.exchanges) sender) := by
        have silent : toldNonce submission sender = none := by
          rw [toldNonce, attempt.pendingNonces_eq_nil, List.head?_nil]
        simp [toldNonce_append, silent, Option.or_assoc]
      refine .next before rest record records ?_ rfl ?_
      · rw [List.append_assoc]
        exact knows.numbered assignment attempt _
      · simpa only [told] using run

/--
In a parallel sequence the pending nonce of a sender is asked for at most once, when it is the turn
of the sender's first write without a nonce. Each write is sent with the nonce due to it behind the
writes before it, all of which were sent, and its handle repeats the sender and the nonce.
-/
theorem Client.submitSequence_numbers
    (client : Client σ)
    (timeout : Nat)
    (writes : List PreparedWrite)
    (world : World σ) :
    ∃ (records : List NumberingRecord) (waiting : List Exchange) (steps : List SubmittedStep)
        (stopped : Option (Nat × StepFailure)),
      let submitting := records.flatMap NumberingRecord.exchanges
      let run := client.submitSequence .parallel timeout writes world
      run.2.history = world.history ++ submitting ++ waiting ∧
        Quiet waiting ∧
        run.1 = reportSteps steps stopped ∧
        steps.map (·.handle) = records.filterMap (·.handle) ∧
        records.map (·.write) = writes.take records.length ∧
        (∀ record ∈ records.dropLast, record.handle.isSome = true) ∧
        ((∀ record ∈ records, record.handle.isSome = true) → records.length = writes.length) ∧
        (∀ sender, nonceQueries submitting sender ≤ 1) ∧
        ∀ before record after,
          records = before ++ record :: after →
          record.Numbered client (toldNonce submitting) (before.map (·.write)) := by
  obtain ⟨_, added, submitting, waiting, steps, stopped, rfl, answer, submissions, quiet, -⟩ :=
    client.yields_submitParallel timeout writes world
  obtain ⟨records, rfl, handles, run⟩ := submissions.numberedRun (Knows.start client)
  refine ⟨records, waiting, steps, stopped, ?_, quiet, answer, handles, run.writes_eq,
    run.handled_of_mem_dropLast, run.length_eq_of_handled, fun sender => ?_, ?_⟩
  · rw [List.append_assoc]
    exact added
  · exact Nat.le_of_add_right_le (run.nonceQueries_le sender)
  · intro before record after split
    simpa using run.numbered split

/-- The writes without a nonce get numbers in a row, around one that carries its own. -/
theorem steadyLedger_numbers :
    let client : Client Unit := { ledger := steadyLedger, config := {} }
    let writes := [steadyWrite none, steadyWrite (some 3), steadyWrite none]
    let run := client.submitSequence .parallel 0 writes (World.start ())
    (sentRequests run.2.history).map (·.nonce) = [some 7, some 3, some 8] ∧
      ∃ (records : List NumberingRecord) (waiting : List Exchange),
        let submitting := records.flatMap NumberingRecord.exchanges
        run.2.history = submitting ++ waiting ∧
          nonceQueries submitting 0xa1 ≤ 1 ∧
          ∀ before record after,
            records = before ++ record :: after →
              record.Numbered client (toldNonce submitting) (before.map (·.write)) := by
  intro client writes run
  obtain ⟨records, waiting, steps, stopped, added, -, -, -, -, -, -, once, numbered⟩ :=
    client.submitSequence_numbers 0 writes (World.start ())
  exact ⟨by decide +kernel, records, waiting, added, once 0xa1, numbered⟩

end ContractGateway
