import ContractGateway.Proofs.Settings.Words

/-!
# What proposals carry

A proposal of one setting carries an ABI value, and a proposal of several settings carries one word
for each of them. The first checks the kind of a value, the second how its kind is carried, and they
convert it each in its own way. `SettingEntry.Proposes` and `SettingValue.ProposeTogether` say what
either comes to, failures included; `SettingValue.proposals_agree` says that this is what the code
does, and that a setting has the same bytes in both.
-/

namespace ContractGateway

open Abi AbiValue

/-- Arguments for settings of one kind are the same when they have the bytes of one word. -/
theorem SettingKind.eq_of_encode
    {kind : SettingKind}
    {argument other : AbiValue}
    {word : Word}
    (fits : argument.fits kind.wireType = true)
    (otherFits : other.fits kind.wireType = true)
    (bytes : encode [argument] = word.toBytes)
    (otherBytes : encode [other] = word.toBytes) :
    argument = other := by
  obtain ⟨-, listless, -⟩ := SettingKind.flat_of_fits fits
  obtain ⟨-, otherListless, -⟩ := SettingKind.flat_of_fits otherFits
  have addressable : AddressableAll [other] := by
    constructor
    · simp [longestOfAll, otherListless]
    · simp [otherBytes]
  have members : eachFits [other] [kind.wireType] = true := by simp [eachFits, otherFits]
  have own : eachFits [argument] [kind.wireType] = true := by simp [eachFits, fits]
  have countable : longestOfAll [argument] < 2 ^ 64 := by simp [longestOfAll, listless]
  have same : [argument] = [other] :=
    encode_injective members own addressable countable (bytes.trans otherBytes.symm)
  exact List.head_eq_of_cons_eq same

namespace SettingValue

variable {value : SettingValue} {type : ProposalType} {failure : EncodeFailure}

/-- Why a value cannot be carried as a type, if it cannot. -/
def offence? (value : SettingValue) (type : ProposalType) : Option EncodeFailure :=
  if value.kind.proposalType = type then
    match value.toWord with
    | .ok _ => none
    | .error cause => some (.conversion cause)
  else some (.settingType value.kind.name type.name)

theorem offence?_eq_none_iff :
    value.offence? type = none ↔
      value.kind.proposalType = type ∧ ∃ word, value.toWord = .ok word := by
  rw [offence?]
  split
  · rename_i carried
    cases value.toWord <;> simp [carried]
  · rename_i other
    simp [other]

theorem proposalWord_eq_ok
    {word : Word}
    (index : Nat)
    (converts : value.toWord = .ok word) :
    proposalWord index value.kind.proposalType value = .ok word := by
  simp [proposalWord, converts]

theorem proposalWord_eq_error
    (index : Nat)
    (offends : value.offence? type = some failure) :
    proposalWord index type value =
      .error (.encode ("proposal setting " ++ toString index) failure) := by
  rw [offence?] at offends
  split at offends
  · rename_i carried
    subst carried
    cases converts : value.toWord with
    | ok word =>
        rw [converts] at offends
        cases offends
    | error cause =>
        rw [converts] at offends
        cases offends
        rw [proposalWord, if_neg (not_not_intro rfl), converts]
        rfl
  · rename_i other
    cases offends
    simp [proposalWord, other]

/-- A value that has no word is not proposed as an ABI value either. -/
theorem toAbi_eq_error
    {cause : ConversionError}
    (fails : value.toWord = .error cause) :
    value.toAbi = .error cause := by
  obtain ⟨kind, value⟩ := value
  cases kind with
  | bool | address =>
      cases fails
  | _ =>
      have unsent : HostUnit.toWire _ value = .error cause := fails
      change (HostUnit.toWire _ value >>= _) = _
      rw [unsent]
      rfl

section Together

variable {types : List ProposalType} {values : List SettingValue} {words : List Word}

/-- Values that are all converted, under types that carry them, are proposed as their words. -/
theorem proposalWordsFrom_eq_ok
    (index : Nat)
    (convert : values.map toWord = words.map .ok) :
    proposalWordsFrom index (values.map (·.kind.proposalType)) values = .ok words := by
  induction values generalizing index words with
  | nil =>
      obtain rfl : words = [] := by simpa using convert.symm
      rfl
  | cons value rest inductionHypothesis =>
      cases words with
      | nil =>
          cases convert
      | cons word words =>
          obtain ⟨here, later⟩ := List.cons.inj convert
          rw [List.map_cons, proposalWordsFrom, proposalWord_eq_ok index here,
            inductionHypothesis (index + 1) later]
          rfl

/-- The first value that cannot be carried decides the error. -/
theorem proposalWordsFrom_eq_error
    {before after : List (ProposalType × SettingValue)}
    (index : Nat)
    (pairs : types.zip values = before ++ (type, value) :: after)
    (earlier : ∀ pair ∈ before, pair.2.offence? pair.1 = none)
    (offends : value.offence? type = some failure) :
    proposalWordsFrom index types values =
      .error (.encode ("proposal setting " ++ toString (index + before.length)) failure) := by
  induction before generalizing index types values with
  | nil =>
      obtain ⟨types, values, rfl, rfl, -⟩ := List.zip_eq_cons_iff.mp pairs
      rw [proposalWordsFrom, proposalWord_eq_error index offends]
      rfl
  | cons pair before inductionHypothesis =>
      obtain ⟨types, values, rfl, rfl, later⟩ := List.zip_eq_cons_iff.mp pairs
      obtain ⟨here, earlier⟩ := List.forall_mem_cons.mp earlier
      obtain ⟨carried, word, converts⟩ := offence?_eq_none_iff.mp here
      rw [proposalWordsFrom, ← carried, proposalWord_eq_ok index converts]
      change (proposalWordsFrom (index + 1) types values >>= _) = _
      rw [inductionHypothesis (index + 1) later.symm earlier, List.length_cons, Nat.add_right_comm,
        Nat.add_assoc]
      rfl

/-- Values that can all be carried are converted, and have the types that carry them. -/
theorem exists_words
    (asMany : types.length = values.length)
    (carried : ∀ pair ∈ types.zip values, pair.2.offence? pair.1 = none) :
    types = values.map (·.kind.proposalType) ∧
      ∃ words : List Word, values.map toWord = words.map .ok := by
  induction types generalizing values with
  | nil =>
      obtain rfl := List.length_eq_zero_iff.mp asMany.symm
      exact ⟨rfl, [], rfl⟩
  | cons type types inductionHypothesis =>
      obtain ⟨value, values, rfl⟩ := List.exists_cons_of_length_eq_add_one asMany.symm
      obtain ⟨here, later⟩ := List.forall_mem_cons.mp carried
      obtain ⟨own, word, converts⟩ := offence?_eq_none_iff.mp here
      obtain rfl : value.kind.proposalType = type := own
      obtain ⟨rfl, words, convert⟩ := inductionHypothesis (Nat.succ.inj asMany) later
      exact ⟨rfl, word :: words, by rw [List.map_cons, convert, converts]; rfl⟩

/-- What a proposal of several settings comes to. -/
inductive ProposeTogether
    (types : List ProposalType)
    (values : List SettingValue) : Except GatewayError (List Word) → Prop where
  /-- Each value is carried by its type and stands in its place as the word it converts to. -/
  | carried
      (words : List Word)
      (types_eq : types = values.map (·.kind.proposalType))
      (converted : values.map toWord = words.map .ok) :
      ProposeTogether types values (.ok words)
  | otherCount
      (different : types.length ≠ values.length) :
      ProposeTogether types values
        (.error (.encode "proposal settings" (.settingCount types.length values.length)))
  /-- The first value that its type cannot carry is named by its place. -/
  | offended
      (asMany : types.length = values.length)
      (before after : List (ProposalType × SettingValue))
      (type : ProposalType)
      (value : SettingValue)
      (failure : EncodeFailure)
      (pairs : types.zip values = before ++ (type, value) :: after)
      (earlier : ∀ pair ∈ before, pair.2.offence? pair.1 = none)
      (offends : value.offence? type = some failure) :
      ProposeTogether types values
        (.error (.encode ("proposal setting " ++ toString before.length) failure))

/-- Several settings are proposed as their words, or the first one that cannot be is named. -/
theorem proposalWords_eq_iff
    (types : List ProposalType)
    (values : List SettingValue)
    (result : Except GatewayError (List Word)) :
    proposalWords types values = result ↔ ProposeTogether types values result := by
  have unique {result : Except GatewayError (List Word)}
      (proposed : ProposeTogether types values result) :
      proposalWords types values = result := by
    cases proposed with
    | carried words types_eq converted =>
        subst types_eq
        rw [proposalWords, if_neg (by simp), proposalWordsFrom_eq_ok 0 converted]
    | otherCount different =>
        rw [proposalWords, if_pos different]
    | offended asMany before after type value failure pairs earlier offends =>
        rw [proposalWords, if_neg (not_not_intro asMany),
          proposalWordsFrom_eq_error 0 pairs earlier offends, Nat.zero_add]
  refine ⟨?_, unique⟩
  rintro rfl
  suffices total : ∃ result, ProposeTogether types values result by
    obtain ⟨result, proposed⟩ := total
    rw [unique proposed]
    exact proposed
  by_cases asMany : types.length = values.length
  · cases first : (types.zip values).find? fun pair => (pair.2.offence? pair.1).isSome with
    | none =>
        have carried : ∀ pair ∈ types.zip values, pair.2.offence? pair.1 = none := by
          simpa using List.find?_eq_none.mp first
        obtain ⟨types_eq, words, converted⟩ := exists_words asMany carried
        exact ⟨_, .carried words types_eq converted⟩
    | some pair =>
        obtain ⟨offends, before, after, pairs, earlier⟩ := List.find?_eq_some_iff_append.mp first
        obtain ⟨failure, offends⟩ := Option.isSome_iff_exists.mp offends
        have fine : ∀ pair ∈ before, pair.2.offence? pair.1 = none := by
          simpa using earlier
        exact ⟨_, .offended asMany before after _ _ failure pairs fine offends⟩
  · exact ⟨_, .otherCount asMany⟩

end Together

end SettingValue

namespace SettingEntry

/-- How an entry is named in errors. -/
def proposalLabel (entry : SettingEntry) : String := entry.field.contract.name ++ ":" ++ entry.path

/-- What a proposal of one setting comes to. -/
inductive Proposes
    (entry : SettingEntry)
    (value : SettingValue) : Except GatewayError (List AbiValue) → Prop where
  /-- The third argument has the type of the kind and the bytes of the word. -/
  | carried
      (word : Word)
      (argument : AbiValue)
      (sameKind : value.kind = entry.kind)
      (converted : value.toWord = .ok word)
      (fitting : argument.fits entry.kind.wireType = true)
      (bytes : encode [argument] = word.toBytes) :
      Proposes entry value
        (.ok [.string entry.field.contract.name, .string entry.path, argument])
  | otherKind
      (different : value.kind ≠ entry.kind) :
      Proposes entry value
        (.error (.encode entry.proposalLabel (.settingKind value.kind.name entry.kind.name)))
  | unconverted
      (cause : ConversionError)
      (sameKind : value.kind = entry.kind)
      (fails : value.toWord = .error cause) :
      Proposes entry value (.error (.encode entry.proposalLabel (.conversion cause)))

theorem proposalArguments_eq_ok
    {entry : SettingEntry}
    {value : SettingValue}
    {argument : AbiValue}
    (sameKind : value.kind = entry.kind)
    (converts : value.toAbi = .ok argument) :
    entry.proposalArguments value =
      .ok [.string entry.field.contract.name, .string entry.path, argument] := by
  rw [proposalArguments, if_neg (not_not_intro sameKind), converts]
  rfl

theorem proposalArguments_eq_error
    {entry : SettingEntry}
    {value : SettingValue}
    {cause : ConversionError}
    (sameKind : value.kind = entry.kind)
    (fails : value.toAbi = .error cause) :
    entry.proposalArguments value = .error (.encode entry.proposalLabel (.conversion cause)) := by
  rw [proposalArguments, if_neg (not_not_intro sameKind), fails]
  rfl

/-- A setting is proposed as its own value, or refused for its kind or its value. -/
theorem proposalArguments_eq_iff
    (entry : SettingEntry)
    (value : SettingValue)
    (result : Except GatewayError (List AbiValue)) :
    entry.proposalArguments value = result ↔ entry.Proposes value result := by
  have unique {result : Except GatewayError (List AbiValue)}
      (proposes : entry.Proposes value result) :
      entry.proposalArguments value = result := by
    cases proposes with
    | carried word argument sameKind converted fitting bytes =>
        obtain ⟨raw, sent, fits, same⟩ := SettingValue.exists_toAbi converted
        rw [sameKind] at fits
        obtain rfl : argument = raw :=
          SettingKind.eq_of_encode fitting fits bytes same
        exact proposalArguments_eq_ok sameKind sent
    | otherKind different =>
        rw [proposalArguments, if_pos different]
        rfl
    | unconverted cause sameKind fails =>
        exact proposalArguments_eq_error sameKind (SettingValue.toAbi_eq_error fails)
  refine ⟨?_, unique⟩
  rintro rfl
  suffices total : ∃ result, entry.Proposes value result by
    obtain ⟨result, proposes⟩ := total
    rw [unique proposes]
    exact proposes
  by_cases sameKind : value.kind = entry.kind
  · cases converted : value.toWord with
    | ok word =>
        obtain ⟨argument, -, fits, bytes⟩ := SettingValue.exists_toAbi converted
        exact ⟨_, .carried word argument sameKind converted (sameKind ▸ fits) bytes⟩
    | error cause =>
        exact ⟨_, .unconverted cause sameKind converted⟩
  · exact ⟨_, .otherKind sameKind⟩

end SettingEntry

namespace SettingValue

/--
What the two kinds of proposals come to. A proposal of one setting succeeds exactly when the value
is of the kind of the entry and converts to a word, and its third argument has the bytes of that
word. A proposal of several settings succeeds exactly when there are as many types as values, each
value is carried as its type says and converts to a word, and it has these words in their places;
else it names the first place where this fails, or the two numbers. So whatever is proposed alone
can be proposed among others, and has the same bytes there.
-/
theorem proposals_agree :
    (∀ entry value result,
        SettingEntry.proposalArguments entry value = result ↔
          SettingEntry.Proposes entry value result) ∧
      (∀ types values result,
        proposalWords types values = result ↔ ProposeTogether types values result) ∧
      ∀ (entry : SettingEntry) (value : SettingValue) (word : Word),
        value.kind = entry.kind ∧ proposalWords [entry.kind.proposalType] [value] = .ok [word] ↔
          ∃ argument,
            entry.proposalArguments value =
                .ok [.string entry.field.contract.name, .string entry.path, argument] ∧
              encode [argument] = word.toBytes := by
  refine ⟨SettingEntry.proposalArguments_eq_iff, proposalWords_eq_iff, ?_⟩
  intro entry value word
  rw [proposalWords_eq_iff]
  constructor
  · rintro ⟨sameKind, together⟩
    cases together with
    | carried words types_eq converted =>
        obtain ⟨argument, sent, -, bytes⟩ := exists_toAbi (List.head_eq_of_cons_eq converted)
        exact ⟨argument, SettingEntry.proposalArguments_eq_ok sameKind sent, bytes⟩
  · rintro ⟨argument, alone, bytes⟩
    cases (SettingEntry.proposalArguments_eq_iff entry value _).mp alone with
    | carried other argument sameKind converted fitting sameBytes =>
        have read := congrArg Word.ofBytes (sameBytes.symm.trans bytes)
        obtain rfl : other = word := by simpa using read
        exact ⟨sameKind, .carried [other] (by simp [sameKind]) (by simp [converted])⟩

end SettingValue

end ContractGateway
