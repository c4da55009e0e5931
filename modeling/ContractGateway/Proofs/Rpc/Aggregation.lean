import ContractGateway.Proofs.Abi.Typed
import ContractGateway.Proofs.Abi.Unique
import ContractGateway.Proofs.Rpc.Quantity

/-!
# Aggregated reads are coded faithfully

The ledger behind a node makes one request for an aggregated read, and its answer is a reading of
what comes back for this request: `Rpc.nodeLedger_aggregate`. A node that takes the request apart
finds the reads in their order, and the outcomes that it lists arrive in theirs. Whatever else comes
back, no read is given the outcome of another one: there are as many outcomes as reads, or an error.
-/

namespace ContractGateway

open Abi AbiValue

namespace AbiValue

section Rows

variable {α : Type} (row : α → AbiValue)

theorem allFit_map
    {type : AbiType}
    (each : ∀ entry, (row entry).fits type = true)
    (entries : List α) :
    allFit (entries.map row) type = true := by
  induction entries with
  | nil => rfl
  | cons entry rest inductionHypothesis =>
      exact Bool.and_eq_true_iff.mpr ⟨each entry, inductionHypothesis⟩

theorem deepest_map_le
    {bound : Nat}
    (each : ∀ entry, (row entry).levels ≤ bound)
    (entries : List α) :
    deepest (entries.map row) ≤ bound := by
  induction entries with
  | nil => exact Nat.zero_le _
  | cons entry rest inductionHypothesis => exact Nat.max_le.mpr ⟨each entry, inductionHypothesis⟩

theorem longestOfAll_map_le
    {bound : Nat}
    (each : ∀ entry, (row entry).longest ≤ bound)
    (entries : List α) :
    longestOfAll (entries.map row) ≤ bound := by
  induction entries with
  | nil => exact Nat.zero_le _
  | cons entry rest inductionHypothesis => exact Nat.max_le.mpr ⟨each entry, inductionHypothesis⟩

end Rows

theorem levels_array_le (items : List AbiValue) :
    (AbiValue.array items).levels ≤ 2 + deepest items := by
  cases items with
  | nil => exact Nat.le_succ 1
  | cons first rest => exact Nat.le_refl _

end AbiValue

namespace Abi

/--
A list of rows that take up room and are not nested far is decoded from its encoding: the rows are
no more than the bytes that they take up.
-/
theorem decode_encode_array
    {items : List AbiValue}
    {item : AbiType}
    (members : allFit items item = true)
    (occupied : (AbiType.array item).isVoid = false)
    (roomy : 0 < item.leastWords)
    (narrow : longestOfAll items < 2 ^ 64)
    (flat : 2 + deepest items ≤ depthLimit)
    (small : (encode [.array items]).length < 2 ^ 64) :
    decode [.array item] (encode [.array items]) = .ok [.array items] := by
  have room := leastWords_le_of_allFit items members
  have rows : items.length ≤ items.length * (32 * item.leastWords) :=
    Nat.le_mul_of_pos_right _ (Nat.mul_pos (by decide) roomy)
  have inside : (assemble (parts items)).length ≤ (encode [.array items]).length := by
    rw [encode_singleton, body, List.length_append, List.length_append]
    omega
  have levels := levels_array_le items
  refine decode_encode (Bool.and_eq_true_iff.mpr ⟨members, rfl⟩) ?_ ⟨?_, small⟩ ?_
  · rintro type (_ | ⟨_, ⟨⟩⟩)
    exact occupied
  · simp only [longestOfAll, longest]
    omega
  · simp only [deepest]
    omega

end Abi

namespace Rpc

/-- A call of a contract at a block. -/
structure ContractCall where
  target : Address
  block : Nat
  input : Bytes
  deriving DecidableEq, Repr

/-- The call that a request asks a node for. -/
def NodeRequest.contractCall? : NodeRequest → Option ContractCall
  | ⟨"eth_call", some [transaction, .string block]⟩ => do
      let target ← bytesOfSize? 20 (transaction.fieldOrNull "to")
      let input ← TransportError.bytesOfJson? (transaction.fieldOrNull "input")
      let block ← numberOfText? block
      return ⟨Address.ofBytes target, block, input⟩
  | _ => none

/-- One read among the arguments of the aggregating method, with its leave to fail. -/
def permittedCall? : AbiValue → Option (ReadCall × Bool)
  | .tuple [.address target, .bool leave, .bytes calldata] => some (⟨target, calldata⟩, leave)
  | _ => none

/-- The reads in the call data of `aggregate3`, each with its leave to fail. -/
def permittedCalls? : Bytes → Option (List (ReadCall × Bool))
  | 0x82 :: 0xad :: 0x56 :: 0xcb :: arguments =>
      match decode [.array (.tuple [.address, .bool, .bytes])] arguments with
      | .ok [.array items] => items.mapM permittedCall?
      | _ => none
  | _ => none

/-- The request that is made for an aggregated read. -/
def aggregateRequest
    (aggregator : Address)
    (calls : List ReadCall)
    (block : Nat) : NodeRequest where
  method := "eth_call"
  parameters :=
    some
      [.object
        [("to", addressJson aggregator),
          ("input", .string (Bytes.toHex (aggregateInput calls)))],
        quantityJson block]

/-- The outcomes that are read from the answer to the request. -/
def outcomesOfAnswer
    (expected : Nat)
    (answered : Except TransportError Json) : Except TransportError (List CallOutcome) := do
  let json ← answered
  match TransportError.bytesOfJson? json with
  | none => throw .unreadable
  | some data => aggregateAnswer expected data

/-- Success and data of one read as a node lists them. -/
def resultValue (result : Bool × Bytes) : AbiValue := .tuple [.bool result.1, .bytes result.2]

/-- The return data of `aggregate3`. -/
def returnData (results : List (Bool × Bytes)) : Bytes :=
  encode [.array (results.map resultValue)]

/-- What a listed result says about its read. -/
def outcomeOf (result : Bool × Bytes) : CallOutcome :=
  if result.1 then .success result.2 else .failure result.2

/-- What becomes of return data when some number of results is expected. -/
inductive Reading (expected : Nat) (data : Bytes) :
    Except TransportError (List CallOutcome) → Prop where
  | malformed
      (cause : DecodeError)
      (decoded : decode [outcomesType] data = .error cause) :
      Reading expected data
        (.error (.custom ("malformed aggregate3 response: " ++ cause.message)))
  | miscounted
      (results : List (Bool × Bytes))
      (decoded : decode [outcomesType] data = .ok [.array (results.map resultValue)])
      (apart : results.length ≠ expected) :
      Reading expected data
        (.error (.custom ("aggregate3 returned " ++ toString results.length ++
          " results for " ++ toString expected ++ " calls")))
  | complete
      (results : List (Bool × Bytes))
      (decoded : decode [outcomesType] data = .ok [.array (results.map resultValue)])
      (asMany : results.length = expected) :
      Reading expected data (.ok (results.map outcomeOf))

section Sending

theorem selector_aggregate : aggregateSelector = [0x82, 0xad, 0x56, 0xcb] := by
  decide +kernel

theorem length_encode_le_aggregateInput (calls : List ReadCall) :
    (encode [.array (calls.map readArgument)]).length ≤ (aggregateInput calls).length := by
  rw [aggregateInput, List.length_append]
  exact Nat.le_add_left _ _

theorem mapM_permittedCall? (calls : List ReadCall) :
    (calls.map readArgument).mapM permittedCall? = some (calls.map (·, true)) := by
  induction calls with
  | nil => rfl
  | cons call rest inductionHypothesis => simp [readArgument, permittedCall?, inductionHypothesis]

/-- The reads are found in the call data, in their order and each with leave to fail. -/
theorem permittedCalls?_aggregateInput
    {calls : List ReadCall}
    (small : (aggregateInput calls).length < 2 ^ 64) :
    permittedCalls? (aggregateInput calls) = some (calls.map (·, true)) := by
  have bound := length_encode_le_aggregateInput calls
  have members : allFit (calls.map readArgument) (.tuple [.address, .bool, .bytes]) = true :=
    allFit_map readArgument (fun _ => rfl) calls
  have narrow := longestOfAll_map_le readArgument (fun _ => Nat.le_refl 3) calls
  have flat := deepest_map_le readArgument (fun _ => Nat.le_refl 2) calls
  have shallow : 2 + 2 ≤ depthLimit := by decide
  have decoded := decode_encode_array members rfl (by decide) (by omega) (by omega) (by omega)
  rw [aggregateInput, selector_aggregate]
  simp only [List.cons_append, List.nil_append, permittedCalls?, decoded]
  exact mapM_permittedCall? calls

/-- A node that takes the request apart is asked for the reads at the block. -/
theorem contractCall?_aggregateRequest
    (aggregator : Address)
    (calls : List ReadCall)
    (block : Nat) :
    (aggregateRequest aggregator calls block).contractCall? =
      some ⟨aggregator, block, aggregateInput calls⟩ := by
  have target :
      bytesOfSize? 20 (addressJson aggregator) = some aggregator.toBytes := by
    rw [bytesOfSize?, addressJson, TransportError.bytesOfJson?, Address.toHex, Bytes.ofHex?_toHex]
    simp [Option.filter, Address.toBytes]
  have whole : Address.ofBytes aggregator.toBytes = aggregator := by
    apply BitVec.eq_of_toNat_eq
    have window : (256 : Nat) ^ 20 = 2 ^ 160 := by decide
    have small := aggregator.isLt
    rw [Address.ofBytes, Address.toBytes, BitVec.toNat_ofNat, Bytes.toNat_ofNat, window,
      Nat.mod_mod, Nat.mod_eq_of_lt small]
  simp [aggregateRequest, NodeRequest.contractCall?, quantityJson, Json.fieldOrNull, Json.field?,
    target, whole, TransportError.bytesOfJson?, Bytes.ofHex?_toHex, numberOfText?_quantityText]

theorem pure_apply {σ α : Type} (value : α) (state : σ) :
    (pure value : Talk σ α) state = (.ok value, state) := rfl

/-- A step and what follows it: only a step that succeeds is followed. -/
theorem bind_apply
    {σ α β : Type}
    (first : Talk σ α)
    (next : α → Talk σ β)
    (state : σ) :
    (first >>= next) state =
      match first state with
      | (.ok value, after) => next value after
      | (.error cause, after) => (.error cause, after) := by
  change (ExceptT.bindCont next (first state).1) (first state).2 = _
  rcases first state with ⟨_ | _, after⟩ <;> rfl

theorem outcomesOfAnswer_of_none
    {json : Json}
    (expected : Nat)
    (read : TransportError.bytesOfJson? json = none) :
    outcomesOfAnswer expected (.ok json) = .error .unreadable := by
  change (match TransportError.bytesOfJson? json with | none => _ | some data => _) = _
  rw [read]
  rfl

theorem outcomesOfAnswer_of_some
    {json : Json}
    {data : Bytes}
    (expected : Nat)
    (read : TransportError.bytesOfJson? json = some data) :
    outcomesOfAnswer expected (.ok json) = aggregateAnswer expected data := by
  change (match TransportError.bytesOfJson? json with | none => _ | some data => _) = _
  rw [read]

/-- The ledger makes the one request, and it answers with what it reads from the answer to it. -/
theorem answer_aggregate
    {σ : Type}
    (transport : Transport σ)
    (config : NodeConfig)
    (calls : List ReadCall)
    (block time : Nat)
    (state : σ) :
    (nodeLedger transport config).answer (.aggregate calls block) time state =
      (outcomesOfAnswer calls.length
          (transport (aggregateRequest config.aggregator calls block) state).1,
        (transport (aggregateRequest config.aggregator calls block) state).2) := by
  change aggregateReads transport config.aggregator calls block state = _
  rw [aggregateReads, bind_apply, request, bind_apply]
  dsimp only [aggregateRequest]
  rcases transport _ state with ⟨cause | json, after⟩
  · rfl
  · dsimp only
    cases read : TransportError.bytesOfJson? json with
    | none =>
        rw [outcomesOfAnswer_of_none _ read]
        rfl
    | some data =>
        rw [outcomesOfAnswer_of_some _ read]
        simp only [pure_apply]
        cases aggregateAnswer calls.length data <;> rfl

end Sending

section Receiving

/-- Rows of the type of results are results. -/
theorem exists_results
    {items : List AbiValue}
    (members : allFit items (.tuple [.bool, .bytes]) = true) :
    ∃ results : List (Bool × Bytes), items = results.map resultValue := by
  induction items with
  | nil => exact ⟨[], rfl⟩
  | cons item rest inductionHypothesis =>
      obtain ⟨first, others⟩ := allFit_cons members
      obtain ⟨results, rfl⟩ := inductionHypothesis others
      cases fitted_of_fits first with
      | tuple columns _ fitting =>
          match columns, fitting with
          | [.bool success, .bytes data], _ => exact ⟨(success, data) :: results, rfl⟩

/-- Return data cannot be decoded, or it is decoded to results. -/
theorem decode_outcomes_cases (data : Bytes) :
    (∃ cause, decode [outcomesType] data = .error cause) ∨
      ∃ results : List (Bool × Bytes),
        decode [outcomesType] data = .ok [.array (results.map resultValue)] := by
  cases decoded : decode [outcomesType] data with
  | error cause => exact .inl ⟨cause, rfl⟩
  | ok values =>
      obtain ⟨value, rfl, fitting⟩ := exists_of_decode_singleton rfl decoded
      cases fitted_of_fits fitting with
      | array items _ members =>
          obtain ⟨results, rfl⟩ := exists_results members
          exact .inr ⟨results, rfl⟩

theorem outcomeOfValue_resultValue (result : Bool × Bytes) :
    outcomeOfValue (resultValue result) = outcomeOf result := by
  obtain ⟨success, data⟩ := result
  cases success <;> rfl

theorem decodeOutcomes_of_results
    {data : Bytes}
    {results : List (Bool × Bytes)}
    (decoded : decode [outcomesType] data = .ok [.array (results.map resultValue)]) :
    decodeOutcomes data = .ok (results.map outcomeOf) := by
  rw [decodeOutcomes, decoded]
  change Except.ok ((results.map resultValue).map outcomeOfValue) = _
  rw [List.map_map]
  exact congrArg _ (List.map_congr_left fun result _ => outcomeOfValue_resultValue result)

/-- Return data is read in one of three ways. -/
theorem reading_aggregateAnswer (expected : Nat) (data : Bytes) :
    Reading expected data (aggregateAnswer expected data) := by
  rcases decode_outcomes_cases data with ⟨cause, decoded⟩ | ⟨results, decoded⟩
  · have fails : decodeOutcomes data = .error cause := by
      rw [decodeOutcomes, decoded]
      rfl
    rw [aggregateAnswer, fails]
    exact .malformed cause decoded
  · rw [aggregateAnswer, decodeOutcomes_of_results decoded]
    dsimp only
    rw [List.length_map]
    by_cases asMany : results.length = expected
    · rw [if_pos asMany]
      exact .complete results decoded asMany
    · rw [if_neg asMany]
      exact .miscounted results decoded asMany

theorem results_unique
    {data : Bytes}
    {results others : List (Bool × Bytes)}
    (decoded : decode [outcomesType] data = .ok [.array (results.map resultValue)])
    (again : decode [outcomesType] data = .ok [.array (others.map resultValue)]) :
    results = others := by
  have injective : Function.Injective resultValue := by
    rintro ⟨success, data⟩ ⟨other, more⟩ same
    cases same
    rfl
  rw [decoded] at again
  simp only [Except.ok.injEq, List.cons.injEq, and_true, AbiValue.array.injEq] at again
  exact List.map_injective_iff.mpr injective again

/-- What is read is as many outcomes as expected. -/
theorem Reading.length_eq
    {expected : Nat}
    {data : Bytes}
    {answer : Except TransportError (List CallOutcome)}
    {outcomes : List CallOutcome}
    (reading : Reading expected data answer)
    (succeeds : answer = .ok outcomes) :
    outcomes.length = expected := by
  cases reading with
  | malformed => cases succeeds
  | miscounted => cases succeeds
  | complete results decoded asMany =>
      cases succeeds
      rw [List.length_map, asMany]

/-- Whatever comes back, there is one outcome for every read when there are outcomes at all. -/
theorem length_of_outcomesOfAnswer
    {expected : Nat}
    {answered : Except TransportError Json}
    {outcomes : List CallOutcome}
    (succeeds : outcomesOfAnswer expected answered = .ok outcomes) :
    outcomes.length = expected := by
  cases answered with
  | error cause => cases succeeds
  | ok json =>
      cases found : TransportError.bytesOfJson? json with
      | none =>
          rw [outcomesOfAnswer_of_none expected found] at succeeds
          cases succeeds
      | some data =>
          rw [outcomesOfAnswer_of_some expected found] at succeeds
          exact (reading_aggregateAnswer expected data).length_eq succeeds

/-- Return data that is decoded to as many results as expected is read as their outcomes. -/
theorem Reading.eq_ok
    {expected : Nat}
    {data : Bytes}
    {answer : Except TransportError (List CallOutcome)}
    {results : List (Bool × Bytes)}
    (reading : Reading expected data answer)
    (decoded : decode [outcomesType] data = .ok [.array (results.map resultValue)])
    (asMany : results.length = expected) :
    answer = .ok (results.map outcomeOf) := by
  cases reading with
  | malformed cause fails =>
      rw [decoded] at fails
      cases fails
  | miscounted others found apart =>
      obtain rfl := results_unique decoded found
      exact absurd asMany apart
  | complete others found _ =>
      obtain rfl := results_unique decoded found
      rfl

/-- The results are read back from the return data that lists them. -/
theorem decode_returnData
    {results : List (Bool × Bytes)}
    (small : (returnData results).length < 2 ^ 64) :
    decode [outcomesType] (returnData results) = .ok [.array (results.map resultValue)] := by
  have members : allFit (results.map resultValue) (.tuple [.bool, .bytes]) = true :=
    allFit_map resultValue (fun _ => rfl) results
  have narrow := longestOfAll_map_le resultValue (fun _ => Nat.le_refl 2) results
  have flat := deepest_map_le resultValue (fun _ => Nat.le_refl 2) results
  have shallow : 2 + 2 ≤ depthLimit := by decide
  exact decode_encode_array members rfl (by decide) (by omega) (by omega) small

/--
An aggregated read makes one request. It is the call of the aggregating contract at the block, and
the reads are found in its call data in their order, each with leave to fail. The answer is an error
of the transport, or it is a reading of the bytes that came back. When these list as many results as
there are reads, each read gets the outcome in its place; whatever they are, there is one outcome
for every read when there are outcomes at all.
-/
theorem nodeLedger_aggregate (config : NodeConfig) (calls : List ReadCall) (block : Nat) :
    (aggregateRequest config.aggregator calls block).contractCall? =
        some ⟨config.aggregator, block, aggregateInput calls⟩ ∧
      ((aggregateInput calls).length < 2 ^ 64 →
        permittedCalls? (aggregateInput calls) = some (calls.map (·, true))) ∧
      ∀ {σ : Type} (transport : Transport σ) (time : Nat) (state after : σ)
        (answered : Except TransportError Json),
        transport (aggregateRequest config.aggregator calls block) state = (answered, after) →
          ∃ answer,
            (nodeLedger transport config).answer (.aggregate calls block) time state =
                (answer, after) ∧
              (∀ cause, answered = .error cause → answer = .error cause) ∧
              (∀ json,
                answered = .ok json →
                  TransportError.bytesOfJson? json = none → answer = .error .unreadable) ∧
              (∀ json data,
                answered = .ok json →
                  TransportError.bytesOfJson? json = some data →
                    Reading calls.length data answer ∧
                      ∀ results,
                        results.length = calls.length →
                          data = returnData results →
                            data.length < 2 ^ 64 → answer = .ok (results.map outcomeOf)) ∧
              ∀ outcomes, answer = .ok outcomes → outcomes.length = calls.length := by
  refine ⟨contractCall?_aggregateRequest _ calls block, permittedCalls?_aggregateInput, ?_⟩
  intro σ transport time state after answered came
  have answers := answer_aggregate transport config calls block time state
  rw [came] at answers
  refine ⟨_, answers, ?_, ?_, ?_, fun _ => length_of_outcomesOfAnswer⟩
  · rintro cause rfl
    rfl
  · rintro json rfl unreadable
    exact outcomesOfAnswer_of_none _ unreadable
  · rintro json data rfl found
    have reading := reading_aggregateAnswer calls.length data
    rw [outcomesOfAnswer_of_some _ found]
    refine ⟨reading, ?_⟩
    rintro results asMany rfl small
    exact reading.eq_ok (decode_returnData small) asMany

/-- A node that lists a success and a failure whatever it is asked, and keeps what it was asked. -/
def listingTransport : Transport (List NodeRequest) := fun request requests =>
  (.ok (.string (Bytes.toHex (returnData [(true, [7]), (false, [])]))), requests ++ [request])

theorem nodeLedger_aggregate_two :
    (nodeLedger listingTransport ⟨0xAA, none⟩).answer
        (.aggregate [⟨0xBB, [1, 2]⟩, ⟨0xCC, []⟩] 17) 0 [] =
      (.ok [.success [7], .failure []],
        [aggregateRequest 0xAA [⟨0xBB, [1, 2]⟩, ⟨0xCC, []⟩] 17]) ∧
      (aggregateRequest 0xAA [⟨0xBB, [1, 2]⟩, ⟨0xCC, []⟩] 17).contractCall? =
        some ⟨0xAA, 17, aggregateInput [⟨0xBB, [1, 2]⟩, ⟨0xCC, []⟩]⟩ ∧
      permittedCalls? (aggregateInput [⟨0xBB, [1, 2]⟩, ⟨0xCC, []⟩]) =
        some [(⟨0xBB, [1, 2]⟩, true), (⟨0xCC, []⟩, true)] := by
  obtain ⟨asked, reads, answers⟩ :=
    nodeLedger_aggregate ⟨0xAA, none⟩ [⟨0xBB, [1, 2]⟩, ⟨0xCC, []⟩] 17
  obtain ⟨answer, same, -, -, bytes, -⟩ := answers listingTransport 0 [] _ _ rfl
  obtain ⟨-, lists⟩ := bytes _ _ rfl (Bytes.ofHex?_toHex _)
  have small : (returnData [(true, [7]), (false, [])]).length < 2 ^ 64 := by decide +kernel
  obtain rfl := lists _ rfl rfl small
  exact ⟨same, asked, reads (by decide +kernel)⟩

end Receiving

end Rpc

end ContractGateway
