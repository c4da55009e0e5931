import ContractGateway.Proofs.Json.Reading
import ContractGateway.Proofs.Text.Wording
import ContractGateway.Revert.Reason
import ContractGateway.Transport.Kind

/-!
# Which error answers count as reverts

The kind of a failure is read off its whole wording: the frame that every error answer is put into,
the node's message, and the data that came with it. Neither the frame nor data that stands for
bytes can speak of a revert, so the message alone decides: `FailureKind.ofError_eq_reverted_iff`.
-/

namespace ContractGateway

namespace Text

/-- Only the letter itself, small or capital, folds to a v. -/
theorem eq_of_v_mem_foldCharacter
    {character : Char}
    (member : 'v' ∈ foldCharacter character) :
    character = 'v' ∨ character = 'V' := by
  rw [foldCharacter] at member
  split at member
  · rename_i capital
    have folds := List.mem_singleton.mp member
    have letters :
        ∀ place : Fin 26,
          'v' = Char.ofNat (place.val + 65 + 32) → place.val + 65 = 'V'.toNat := by
      decide
    have bounds : 65 ≤ character.toNat ∧ character.toNat ≤ 90 := capital
    have place : character.toNat - 65 + 65 = character.toNat := by omega
    have letter := letters ⟨character.toNat - 65, by omega⟩
    simp only [place] at letter
    exact .inr (Char.toNat_inj.mp (letter folds))
  · split at member
    · simp at member
    · split at member
      · simp at member
      · exact .inl (List.mem_singleton.mp member).symm

/-- A text of marks holds no v in either case. -/
theorem v_notMem_folded_of_isMark
    {text : String}
    (marks : ∀ character ∈ text.toList, Json.isMark character = true) :
    'v' ∉ folded text := by
  refine notMem_folded fun character member folds => ?_
  have mark := marks character member
  rcases eq_of_v_mem_foldCharacter folds with rfl | rfl
  · cases mark
  · cases mark

/-- A number is written in digits, behind a sign when it is negative. -/
theorem isDigit_of_mem_toString
    {number : Int}
    {character : Char}
    (member : character ∈ (toString number).toList) :
    character.isDigit = true ∨ character = '-' := by
  have digits (natural : Nat) (within : character ∈ (toString natural).toList) :
      character.isDigit = true := by
    have written : (toString natural).toList = Nat.toDigits 10 natural := by simp
    rw [written] at within
    exact Nat.isDigit_of_mem_toDigits (by decide) (by decide) within
  cases number with
  | ofNat natural =>
      exact .inl (digits natural member)
  | negSucc natural =>
      have signed : character ∈ ("-" ++ toString (natural + 1)).toList := member
      rw [String.toList_append] at signed
      rcases List.mem_append.mp signed with sign | within
      · exact .inr (by simpa using sign)
      · exact .inl (digits (natural + 1) within)

theorem v_notMem_folded_toString (number : Int) : 'v' ∉ folded (toString number) := by
  refine notMem_folded fun character member folds => ?_
  have digit := isDigit_of_mem_toString member
  rcases eq_of_v_mem_foldCharacter folds with rfl | rfl <;> revert digit <;> decide

end Text

namespace FailureKind

open Text

/-- A wording that the frame around a node's message and its data cannot hold, not even in part. -/
structure Unframed (wording : List Char) : Prop where
  comma : ',' ∉ wording
  colon : ':' ∉ wording
  letter : 'v' ∈ wording
  opening : ∃ first rest, wording = first :: rest ∧ first ≠ ' '
  heading : contains wording "server returned an error response".toList = false

theorem unframed_revert : Unframed "revert".toList :=
  ⟨by decide, by decide, by decide, ⟨'r', "evert".toList, rfl, by decide⟩, by decide⟩

theorem unframed_invalidOpcode : Unframed "invalid opcode".toList :=
  ⟨by decide, by decide, by decide, ⟨'i', "nvalid opcode".toList, rfl, by decide⟩, by decide⟩

theorem folded_message_response
    (code : Int)
    (message data : String) :
    folded (TransportError.response code message (some data)).message =
      folded "server returned an error response: error code " ++ folded (toString code) ++
        folded ": " ++ folded message ++ (folded ", data: " ++ folded data) := by
  have written :
      (TransportError.response code message (some data)).message =
        "server returned an error response: error code " ++ toString code ++ ": " ++ message ++
          (", data: " ++ data) :=
    rfl
  simp only [written, folded_append]

/-- Such a wording occurs in an error answer with bytes exactly when the node's message holds it. -/
theorem Unframed.contains_message
    {wording : List Char}
    (unframed : Unframed wording)
    (code : Int)
    (message : String)
    {data : String}
    (marks : ∀ character ∈ data.toList, Json.isMark character = true) :
    contains wording (folded (TransportError.response code message (some data)).message) =
      contains wording (folded message) := by
  obtain ⟨comma, colon, letter, ⟨first, rest, rfl, notBlank⟩, heading⟩ := unframed
  have nonempty : first :: rest ≠ [] := List.cons_ne_nil first rest
  have inCode : contains (first :: rest) (" error code ".toList ++ folded (toString code)) = false :=
    not_contains_of_missing letter (by simpa using v_notMem_folded_toString code)
  have inName : contains (first :: rest) " data".toList = false :=
    not_contains_of_missing letter (by decide)
  have inData : contains (first :: rest) (folded data) = false :=
    not_contains_of_missing letter (v_notMem_folded_of_isMark marks)
  have front :
      folded "server returned an error response: error code " =
        "server returned an error response".toList ++ ':' :: " error code ".toList := by
    decide
  have before : folded ": " = [':', ' '] := by decide
  have between : folded ", data: " = ',' :: (" data".toList ++ [':', ' ']) := by decide
  generalize "server returned an error response".toList = opened at heading front
  generalize " error code ".toList = named at inCode front
  generalize " data".toList = attached at inName between
  have framed :
      folded (TransportError.response code message (some data)).message =
        opened ++ ':' :: ((named ++ folded (toString code)) ++
          ':' :: ' ' :: (folded message ++ ',' :: (attached ++ ':' :: ' ' :: folded data))) := by
    rw [folded_message_response, front, before, between]
    simp only [List.append_assoc, List.cons_append, List.nil_append]
  rw [framed, contains_append_cons colon nonempty, heading,
    contains_append_cons colon nonempty, inCode, contains_cons_of_ne notBlank,
    contains_append_cons comma nonempty, contains_append_cons colon nonempty, inName,
    contains_cons_of_ne notBlank, inData]
  simp

/-- A wording speaks of a revert exactly when it holds one of two words. -/
theorem wordingKind_eq_reverted_iff (characters : List Char) :
    wordingKind characters = .reverted ↔
      contains "revert".toList characters = true ∨
        contains "invalid opcode".toList characters = true := by
  have anywhere :
      anyOf characters ["execution reverted", "revert", "invalid opcode"] = true ↔
        contains "revert".toList characters = true ∨
          contains "invalid opcode".toList characters = true := by
    have longer := @contains_of_contains _ _ characters
      (show contains "revert".toList "execution reverted".toList = true by decide)
    simp only [anyOf, List.any_cons, List.any_nil, Bool.or_eq_true, Bool.false_eq_true, or_false]
    exact or_iff_right_of_imp fun occurs => .inl (longer occurs)
  rw [← anywhere, wordingKind]
  split
  · rename_i mentioned
    simp [mentioned]
  · rename_i unmentioned
    simp only [unmentioned]
    repeat' split
    all_goals simp

/--
An error answer with data that stands for bytes counts as a revert exactly when its message mentions
a revert or an invalid opcode.
-/
theorem ofError_eq_reverted_iff
    (code : Int)
    (message : String)
    {data : String}
    {bytes : Bytes}
    (carries : (TransportError.response code message (some data)).revertData? = some bytes) :
    ofError (.response code message (some data)) = .reverted ↔
      mentions message "revert" = true ∨ mentions message "invalid opcode" = true := by
  have marks := TransportError.isMark_of_revertData? carries
  have whole :
      ofMessage (TransportError.response code message (some data)).message = .reverted ↔
        mentions message "revert" = true ∨ mentions message "invalid opcode" = true := by
    rw [ofMessage, wordingKind_eq_reverted_iff, unframed_revert.contains_message code message marks,
      unframed_invalidOpcode.contains_message code message marks]
    rfl
  rw [ofError]
  split
  · rename_i mentioned
    simp [mentioned]
  · exact whole

end FailureKind

end ContractGateway
