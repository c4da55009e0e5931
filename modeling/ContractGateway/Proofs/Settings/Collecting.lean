import ContractGateway.Proofs.Batch.Served
import ContractGateway.Proofs.Settings.Registration
import ContractGateway.Proofs.Settings.Words

/-!
# Settings are collected as they were proposed

`Settings.Built` gives the registries that can be made, and `Settings.Built.map_path` the order of
their entries. A registry enqueues one read for each entry behind the requests that are there
already, whatever is enqueued behind it later, and each slot is tagged with its batch. When every
getter returns the word that a value is proposed as, these values are collected:
`Settings.collect_proposed`.
-/

namespace ContractGateway

open Abi AbiValue

namespace Batch

/-- A batch with more requests behind its own. -/
def followedBy (batch : Batch) (later : List Request) : Batch :=
  { batch with requests := batch.requests ++ later }

variable {batch : Batch}

theorem followedBy_nil : batch.followedBy [] = batch := by
  simp [followedBy]

theorem followedBy_followedBy (first second : List Request) :
    (batch.followedBy first).followedBy second = batch.followedBy (first ++ second) := by
  simp [followedBy]

theorem add_eq
    (isOpen : batch.closed = false)
    (request : Request) :
    batch.add request = .ok (⟨batch.id, batch.requests.length⟩, batch.followedBy [request]) := by
  simp [add, isOpen, followedBy]

end Batch

namespace SettingEntry

variable {entry : SettingEntry}

/-- The getter of an entry takes the path and returns a value of the kind, which does not round. -/
structure Declared (entry : SettingEntry) : Prop where
  exact : entry.kind ≠ .ratio
  takes : Parameter.resolveAll entry.field.getter.inputs = .ok [.string]
  returns : Parameter.resolveAll entry.field.getter.outputs = .ok [entry.kind.wireType]

/-- The read of a setting: the call of its getter with its path. -/
def request (entry : SettingEntry) : Request :=
  entry.field.request (entry.field.getter.selector ++ encode [.string entry.path])

theorem enqueue_eq
    (declared : entry.Declared)
    (arguments : entry.field.arguments = [.string entry.path])
    {batch : Batch}
    (isOpen : batch.closed = false) :
    entry.field.enqueue batch =
      .ok (⟨batch.id, batch.requests.length⟩, batch.followedBy [entry.request]) := by
  have encodes :=
    (encodeFor_eq_ok_iff entry.field.getter.inputs [.string entry.path] _).mpr
      ⟨[.string], declared.takes, rfl, rfl⟩
  have calls :
      Contract.callData entry.field.getter entry.field.label entry.field.arguments =
        .ok (entry.field.getter.selector ++ encode [.string entry.path]) := by
    rw [arguments, Contract.callData, Method.encodeCall, encodes]
    rfl
  simp only [Field.enqueue, isOpen, calls, Bool.false_eq_true]
  exact Batch.add_eq isOpen entry.request

end SettingEntry

namespace SettingValue

/-- A setting as a batch holds it. -/
def datum (setting : SettingValue) : Datum := ⟨setting.kind.slotType, setting.value⟩

/-- An entry reads the word of a setting of its kind for that setting. -/
theorem request_gives
    {entry : SettingEntry}
    (declared : entry.Declared)
    {setting : SettingValue}
    (sameKind : setting.kind = entry.kind)
    {word : Word}
    (carried : setting.toWord = .ok word) :
    entry.request.Gives (.success word.toBytes) setting.datum := by
  obtain ⟨path, kind, field⟩ := entry
  obtain ⟨value, rfl⟩ := exists_eq_of_kind sameKind
  exact ⟨_, value, rfl, read_word declared.exact carried field declared.returns, rfl⟩

end SettingValue

/-- A slot gives the setting that stands in its place. -/
theorem PendingSetting.collect_eq_ok
    {pending : PendingSetting}
    {results : Results}
    {setting : SettingValue}
    (sameKind : setting.kind = pending.kind)
    (sameBatch : pending.slot.batch = results.batch)
    (standing : results.values[pending.slot.index]? = some (some setting.datum)) :
    pending.collect results = .ok (pending.path, setting) := by
  obtain ⟨path, kind, slot⟩ := pending
  obtain ⟨value, rfl⟩ := SettingValue.exists_eq_of_kind sameKind
  have own : slot.batch = results.batch := sameBatch
  simp [collect, Results.get, own, standing, SettingValue.datum]

namespace Settings

section Registration

/-- The registries that can be made, with the paths registered in them, the newest one last. -/
inductive Built : List String → Settings → Prop where
  | empty : Built [] {}
  | register
      (paths : List String)
      (settings : Settings)
      (contract : Contract)
      (path : String)
      (kind : SettingKind)
      (entry : SettingEntry)
      (next : Settings)
      (built : Built paths settings)
      (registers : settings.register contract path kind = (.ok entry, next)) :
      Built (paths ++ [path]) next

namespace Built

variable {paths : List String} {settings : Settings}

/-- The places are kept in step with the entries. -/
theorem placed (built : Built paths settings) : settings.Placed := by
  induction built with
  | empty =>
      exact .empty
  | register paths settings contract path kind entry next built registers inductionHypothesis =>
      obtain ⟨-, rfl⟩ := Registration.binds_of_register registers
      exact inductionHypothesis.put entry

/-- The entries stand in the order in which their paths were first registered. -/
theorem map_path (built : Built paths settings) :
    settings.entries.map (·.path) = paths.eraseDups := by
  induction built with
  | empty =>
      rfl
  | register paths settings contract path kind entry next built registers inductionHypothesis =>
      obtain ⟨binds, rfl⟩ := Registration.binds_of_register registers
      have order := built.placed.paths_put entry
      rw [Settings.paths, Settings.paths, inductionHypothesis, binds.path_eq] at order
      rw [order, eraseDups_append_singleton]
      simp only [List.mem_eraseDups]

/-- Every entry reads its getter at its path. -/
theorem arguments_eq
    (built : Built paths settings)
    {entry : SettingEntry}
    (member : entry ∈ settings.entries) :
    entry.field.arguments = [.string entry.path] := by
  induction built with
  | empty =>
      cases member
  | register paths settings contract path kind bound next built registers inductionHypothesis =>
      obtain ⟨binds, rfl⟩ := Registration.binds_of_register registers
      rcases eq_or_mem_of_mem_put member with rfl | known
      · rw [binds.arguments_eq, binds.path_eq]
      · exact inductionHypothesis known

end Built

end Registration

section Slots

/-- The slots of entries whose reads stand in a batch from an index on. -/
def pendingFrom (batch : Nat) : (index : Nat) → List SettingEntry → List PendingSetting
  | _, [] => []
  | index, entry :: rest =>
      ⟨entry.path, entry.kind, ⟨batch, index⟩⟩ :: pendingFrom batch (index + 1) rest

theorem enqueueEntries_eq
    {entries : List SettingEntry}
    (declared : ∀ entry ∈ entries, entry.Declared)
    (arguments : ∀ entry ∈ entries, entry.field.arguments = [.string entry.path])
    {batch : Batch}
    (isOpen : batch.closed = false) :
    enqueueEntries entries batch =
      (.ok (pendingFrom batch.id batch.requests.length entries),
        batch.followedBy (entries.map SettingEntry.request)) := by
  induction entries generalizing batch with
  | nil =>
      rw [List.map_nil, Batch.followedBy_nil]
      rfl
  | cons entry rest inductionHypothesis =>
      obtain ⟨here, declaredLater⟩ := List.forall_mem_cons.mp declared
      obtain ⟨bound, argumentsLater⟩ := List.forall_mem_cons.mp arguments
      have openBehind : (batch.followedBy [entry.request]).closed = false := isOpen
      rw [enqueueEntries, SettingEntry.enqueue_eq here bound isOpen]
      dsimp only
      rw [inductionHypothesis declaredLater argumentsLater openBehind, Batch.followedBy_followedBy]
      simp [pendingFrom, Batch.followedBy, Except.map]

/-- Slots give the values that stand in their places. -/
theorem collect_pendingFrom
    {entries : List SettingEntry}
    {values : String → SettingValue}
    (sameKind : ∀ entry ∈ entries, (values entry.path).kind = entry.kind)
    {results : Results}
    {before after : List Datum}
    (standing :
      results.values =
        (before ++ entries.map (fun entry => (values entry.path).datum) ++ after).map some) :
    collect (pendingFrom results.batch before.length entries) results =
      .ok (entries.map fun entry => (entry.path, values entry.path)) := by
  induction entries generalizing before with
  | nil =>
      rfl
  | cons entry rest inductionHypothesis =>
      obtain ⟨here, later⟩ := List.forall_mem_cons.mp sameKind
      have first :
          PendingSetting.collect ⟨entry.path, entry.kind, ⟨results.batch, before.length⟩⟩ results =
            .ok (entry.path, values entry.path) :=
        PendingSetting.collect_eq_ok here rfl (by simp [standing])
      have others :
          collect (pendingFrom results.batch (before.length + 1) rest) results =
            .ok (rest.map fun entry => (entry.path, values entry.path)) := by
        have behind :
            results.values =
              ((before ++ [(values entry.path).datum]) ++
                rest.map (fun entry => (values entry.path).datum) ++ after).map some := by
          simp [standing]
        simpa using inductionHypothesis later behind
      rw [collect, pendingFrom, List.mapM_cons, first]
      change (collect _ results >>= _) = _
      rw [others]
      rfl

/-- The first slot is not one of another batch, so nothing is collected. -/
theorem Built.collect_of_ne
    {path : String}
    {rest : List String}
    {settings : Settings}
    (built : Built (path :: rest) settings)
    {batch : Nat}
    {results : Results}
    (other : results.batch ≠ batch)
    (index : Nat) :
    collect (pendingFrom batch index settings.entries) results =
      .error (.slot index path .absent) := by
  have order := built.map_path
  rw [List.eraseDups_cons] at order
  cases shape : settings.entries with
  | nil =>
      rw [shape] at order
      cases order
  | cons entry entries =>
      rw [shape] at order
      obtain rfl : entry.path = path := List.head_eq_of_cons_eq order
      have absent :
          PendingSetting.collect ⟨entry.path, entry.kind, ⟨batch, index⟩⟩ results =
            .error (.slot index entry.path .absent) := by
        simp [PendingSetting.collect, Results.get, other.symm]
      rw [collect, pendingFrom, List.mapM_cons, absent]
      rfl

end Slots

section Reads

variable {answer : ReadCall → CallOutcome}

/-- Requests that all give a value give a list of values. -/
theorem exists_values
    {requests : List Request}
    (each : ∀ request ∈ requests, ∃ datum, request.Gives (answer request.call) datum) :
    ∃ values,
      List.Forall₂ (fun request datum => request.Gives (answer request.call) datum)
        requests values := by
  induction requests with
  | nil =>
      exact ⟨[], .nil⟩
  | cons request rest inductionHypothesis =>
      obtain ⟨⟨datum, given⟩, later⟩ := List.forall_mem_cons.mp each
      obtain ⟨values, gives⟩ := inductionHypothesis later
      exact ⟨datum :: values, .cons given gives⟩

/-- Entries that are all answered with the word of a setting give these settings. -/
theorem reads_give
    {entries : List SettingEntry}
    (declared : ∀ entry ∈ entries, entry.Declared)
    {values : String → SettingValue}
    {words : String → Word}
    (sameKind : ∀ entry ∈ entries, (values entry.path).kind = entry.kind)
    (proposed : ∀ entry ∈ entries, (values entry.path).toWord = .ok (words entry.path))
    (stored :
      ∀ entry ∈ entries, answer entry.request.call = .success (words entry.path).toBytes) :
    List.Forall₂ (fun request datum => request.Gives (answer request.call) datum)
      (entries.map SettingEntry.request) (entries.map fun entry => (values entry.path).datum) := by
  rw [List.forall₂_map_left_iff, List.forall₂_map_right_iff, List.forall₂_same]
  intro entry member
  rw [stored entry member]
  exact SettingValue.request_gives (declared entry member) (sameKind entry member)
    (proposed entry member)

end Reads

/--
A registry whose getters take a path and return a value of the declared kind reads back what was
proposed, if none of the kinds rounds. Its reads are enqueued into any open batch, behind and before
any others that are answered with data they can read. If the ledger answers each getter with the
word of the value that is proposed for its path, whatever travels with the call and in round trips
of whatever size, then the batch is executed, and all paths are collected with their values in the
order in which they were first registered. From the results of another batch nothing is collected
unless nothing was registered.
-/
theorem collect_proposed
    {σ : Type}
    {paths : List String}
    {settings : Settings}
    (built : Built paths settings)
    (declared : ∀ entry ∈ settings.entries, entry.Declared)
    (values : String → SettingValue)
    (words : String → Word)
    (sameKind : ∀ entry ∈ settings.entries, (values entry.path).kind = entry.kind)
    (proposed : ∀ entry ∈ settings.entries, (values entry.path).toWord = .ok (words entry.path))
    (batch : Batch)
    (isOpen : batch.closed = false)
    (later : List Request)
    (ledger : Ledger σ)
    (parsers : List Revert.ErrorParser)
    (maxCalls : Nat)
    (world : World σ)
    (block : Nat)
    (pinned : batch.PinnedTo ledger world block)
    (possible : ReadCall → CallOutcome → Prop)
    (serves :
      ledger.Serves block
        ((batch.requests ++ settings.entries.map SettingEntry.request ++ later).map Request.call)
        possible)
    (stored :
      ∀ entry ∈ settings.entries, ∀ outcome,
        possible entry.request.call outcome → outcome = .success (words entry.path).toBytes)
    (others :
      ∀ request ∈ batch.requests ++ later, ∀ outcome,
        possible request.call outcome → ∃ datum, request.Gives outcome datum) :
    ∃ pending enqueued,
      settings.enqueueAll batch = (.ok pending, enqueued) ∧
        enqueued = batch.followedBy (settings.entries.map SettingEntry.request) ∧
        (∃ results,
          ((enqueued.followedBy later).execute ledger parsers maxCalls world).1.1 = .ok results ∧
            collect pending results = .ok (paths.eraseDups.map fun path => (path, values path))) ∧
        ∀ results path rest,
          results.batch ≠ batch.id →
          paths = path :: rest →
            collect pending results = .error (.slot batch.requests.length path .absent) := by
  refine ⟨pendingFrom batch.id batch.requests.length settings.entries, _,
    enqueueEntries_eq declared (fun _ member => built.arguments_eq member) isOpen, rfl, ?_, ?_⟩
  · let reads := settings.entries.map SettingEntry.request
    let whole := batch.followedBy (reads ++ later)
    have openWhole : whole.closed = false := isOpen
    have pinnedWhole : whole.PinnedTo ledger world block := pinned
    have all : batch.requests ++ reads ++ later = whole.requests := List.append_assoc _ _ _
    rw [all] at serves
    obtain ⟨answer, answered, executes⟩ :=
      whole.execute_of_serves parsers maxCalls openWhole pinnedWhole serves
    rw [← all] at answered executes
    have givesOthers :
        ∀ request ∈ batch.requests ++ later,
          ∃ datum, request.Gives (answer request.call) datum := by
      intro request member
      exact others request member _ (answered request (by grind))
    obtain ⟨before, givesBefore⟩ :=
      exists_values fun request member => givesOthers request (List.mem_append_left _ member)
    obtain ⟨after, givesAfter⟩ :=
      exists_values fun request member => givesOthers request (List.mem_append_right _ member)
    have answeredReads :
        ∀ entry ∈ settings.entries,
          answer entry.request.call = .success (words entry.path).toBytes := by
      intro entry member
      have read : entry.request ∈ reads := List.mem_map_of_mem member
      exact stored entry member _ (answered entry.request (by grind))
    have gives := reads_give declared sameKind proposed answeredReads
    obtain ⟨results, executed, sameBatch, standing⟩ :=
      executes _ (List.rel_append (List.rel_append givesBefore gives) givesAfter)
    have tagged : batch.id = results.batch := sameBatch.symm
    refine ⟨results, ?_, ?_⟩
    · rw [Batch.followedBy_followedBy]
      exact executed
    · rw [← built.map_path, List.map_map, tagged, givesBefore.length_eq]
      exact collect_pendingFrom sameKind standing
  · rintro results path rest other rfl
    exact built.collect_of_ne other _

end Settings

section Example

/-- The getter of flags. -/
def flagGetter : Method := ⟨"getSettingBool", [.mk "string" []], [.mk "bool" []], .view⟩

/-- The getter of numbers. -/
def numberGetter : Method := ⟨"getSettingUint", [.mk "string" []], [.mk "uint256" []], .view⟩

/-- A settings contract at an address. -/
def settingsAt (address : Address) : Contract :=
  ⟨"settings", address, [flagGetter, numberGetter]⟩

/-- A flag and a number, on two contracts. -/
def lotSettings : Settings where
  entries :=
    [⟨"lot.enabled", .bool, settingsAt 0xA, flagGetter, [.string "lot.enabled"], none⟩,
      ⟨"lot.duration", .count, settingsAt 0xB, numberGetter, [.string "lot.duration"], none⟩]
  places := [("lot.enabled", 0), ("lot.duration", 1)]

/-- The flag was first registered as a number. -/
theorem lotSettings_built :
    Settings.Built ["lot.enabled", "lot.duration", "lot.enabled"] lotSettings :=
  .register _ _ (settingsAt 0xA) "lot.enabled" .bool _ _
    (.register _ _ (settingsAt 0xB) "lot.duration" .count _ _
      (.register _ _ (settingsAt 0xB) "lot.enabled" .uint _ _ .empty rfl) rfl) rfl

/-- The proposed settings. -/
def lotValues (path : String) : SettingValue :=
  if path = "lot.enabled" then ⟨.bool, true⟩ else ⟨.count, (40320 : BitVec 64)⟩

/-- A ledger that answers by the contract that is read. -/
def lotLedger : Ledger Unit where
  defaultSender := none
  answer
    | .aggregate calls _, _, state =>
        (.ok (calls.map fun call => .success (word (if call.target = 0xA then 1 else 40320))),
          state)
    | .blockNumber, _, state => (.ok 7, state)
    | _, _, state => (.error .backendGone, state)

/-- Both settings are collected from a batch with another read in front and one behind. -/
theorem lotSettings_collected :
    let batch : Batch := ⟨4, .latest, [⟨0xC, "first", [1], .bytes, .ok⟩], false⟩
    ∃ pending enqueued results,
      lotSettings.enqueueAll batch = (.ok pending, enqueued) ∧
        ((enqueued.followedBy [⟨0xA, "last", [2], .bytes, .ok⟩]).execute lotLedger [] 2
            (.start ())).1.1 = .ok results ∧
        Settings.collect pending results =
          .ok
            [("lot.enabled", ⟨.bool, true⟩), ("lot.duration", ⟨.count, (40320 : BitVec 64)⟩)] := by
  intro batch
  have answersReads : lotLedger.AnswersReads fun call _ =>
      .success (word (if call.target = 0xA then 1 else 40320)) := fun _ _ _ _ => rfl
  have declared : ∀ entry ∈ lotSettings.entries, entry.Declared := by
    rintro entry (_ | ⟨_, _ | ⟨_, ⟨⟩⟩⟩)
    · exact ⟨by decide, rfl, rfl⟩
    · exact ⟨by decide, rfl, rfl⟩
  obtain ⟨pending, enqueued, enqueues, -, ⟨results, executed, collected⟩, -⟩ :=
    Settings.collect_proposed lotSettings_built declared lotValues
      (fun path => if path = "lot.enabled" then 1 else 40320)
      (by rintro entry (_ | ⟨_, _ | ⟨_, ⟨⟩⟩⟩) <;> rfl)
      (by rintro entry (_ | ⟨_, _ | ⟨_, ⟨⟩⟩⟩) <;> rfl)
      batch rfl [⟨0xA, "last", [2], .bytes, .ok⟩] lotLedger [] 2 (.start ()) 7
      rfl _
      (answersReads.serves 7 _)
      (by rintro entry (_ | ⟨_, _ | ⟨_, ⟨⟩⟩⟩) outcome rfl <;> rfl)
      (by rintro request (_ | ⟨_, _ | ⟨_, ⟨⟩⟩⟩) outcome rfl <;> exact ⟨_, _, _, rfl, rfl, rfl⟩)
  exact ⟨pending, enqueued, results, enqueues, executed, collected⟩

end Example

end ContractGateway
