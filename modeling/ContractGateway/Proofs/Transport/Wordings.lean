import ContractGateway.Proofs.Transport.Reverts

/-!
# Texts that call a transaction unknown

The wording for a transaction that a node has already is "known transaction", and it stands in its
own opposite as well. `FailureKind.OnlyUnknown` is said of a text where it stands nowhere else, and
which holds none of the other wordings. Nothing but a transaction that is not known can be meant
there, yet such a text is read as `alreadyKnown` as soon as it speaks of an "unknown transaction".
-/

namespace ContractGateway.FailureKind

open Text

/-- The wordings that kinds are read off, but for "known transaction". -/
def otherWordings : List String :=
  ["execution reverted", "revert", "invalid opcode",
    "nonce too low", "nonce is too low", "invalid nonce", "too low", "expected",
    "nonce too high", "nonce is too high", "nonce gap",
    "replacement transaction underpriced", "underpriced",
    "max fee per gas less than block base fee",
    "insufficient funds", "insufficient balance", "exceeds balance",
    "intrinsic gas too low", "gas limit too low", "out of gas",
    "already known", "already imported",
    "connection", "timeout", "timed out", "network", "transport", "eof", "broken pipe"]

/--
A text without any of the other wordings, and with "known transaction" only at the end of "unknown
transaction", letter case aside.
-/
structure OnlyUnknown (text : String) : Prop where
  others : ∀ wording ∈ otherWordings, mentions text wording = false
  inside :
    ∀ place < (folded text).length,
      "known transaction".toList <+: (folded text).drop place →
        "un".toList <:+ (folded text).take place

instance (text : String) : Decidable (OnlyUnknown text) :=
  decidable_of_iff
    ((∀ wording ∈ otherWordings, mentions text wording = false) ∧
      ∀ place < (folded text).length,
        "known transaction".toList <+: (folded text).drop place →
          "un".toList <:+ (folded text).take place)
    ⟨fun ⟨others, inside⟩ => ⟨others, inside⟩, fun only => ⟨only.others, only.inside⟩⟩

namespace OnlyUnknown

variable {text : String}

/-- Such a text mentions a known transaction exactly when it mentions an unknown one. -/
theorem mentions_known_eq (only : OnlyUnknown text) :
    mentions text "known transaction" = mentions text "unknown transaction" := by
  rw [Bool.eq_iff_iff]
  constructor
  · intro known
    obtain ⟨before, after, split⟩ := (contains_iff _ _).mp known
    have within : before.length < (folded text).length := by
      rw [split]
      simp
    have ends : "un".toList <:+ before := by
      have place := only.inside before.length within
      rw [split, List.append_assoc, List.drop_left, List.take_left] at place
      exact place (List.prefix_append _ _)
    obtain ⟨front, rfl⟩ := ends
    refine (contains_iff _ _).mpr ⟨front, after, ?_⟩
    have whole : "unknown transaction".toList = "un".toList ++ "known transaction".toList := by
      decide
    rw [split, whole, List.append_assoc front]
  · exact contains_of_contains (by decide)

/-- Such a text leaves two kinds open. -/
theorem ofMessage_eq (only : OnlyUnknown text) :
    ofMessage text = if mentions text "unknown transaction" then .alreadyKnown else .unknown := by
  have absent (wordings : List String) (listed : wordings ⊆ otherWordings) :
      anyOf (folded text) wordings = false := by
    rw [anyOf, List.any_eq_false]
    intro wording member
    exact Bool.eq_false_iff.mp (only.others wording (listed member))
  have known :
      anyOf (folded text) ["already known", "already imported", "known transaction"] =
        mentions text "unknown transaction" := by
    have others := absent ["already known", "already imported"] (by decide)
    rw [← only.mentions_known_eq]
    simp only [anyOf, List.any_cons, List.any_nil, Bool.or_false, Bool.or_eq_false_iff] at others ⊢
    rw [others.1, others.2, Bool.false_or, Bool.false_or, mentions]
  simp only [ofMessage, wordingKind, known]
  rw [absent ["execution reverted", "revert", "invalid opcode"] (by decide),
    absent ["nonce too low", "nonce is too low"] (by decide),
    absent ["invalid nonce"] (by decide),
    absent ["nonce too high", "nonce is too high", "nonce gap"] (by decide),
    absent ["replacement transaction underpriced", "underpriced",
      "max fee per gas less than block base fee"] (by decide),
    absent ["insufficient funds", "insufficient balance", "exceeds balance"] (by decide),
    absent ["intrinsic gas too low", "gas limit too low", "out of gas"] (by decide),
    absent ["connection", "timeout", "timed out", "network", "transport", "eof", "broken pipe"]
      (by decide)]
  rfl

/-- It is read as transient exactly when it does not say that the transaction is unknown. -/
theorem isTransient_ofMessage (only : OnlyUnknown text) :
    (ofMessage text).isTransient = !mentions text "unknown transaction" := by
  rw [only.ofMessage_eq]
  cases mentions text "unknown transaction" <;> rfl

/-- The message of an error answer is part of its text, so it speaks of no revert either. -/
theorem ofError_eq
    {cause : TransportError}
    (only : OnlyUnknown cause.message) :
    ofError cause = ofMessage cause.message := by
  rcases cause with ⟨code, message, _ | data⟩ | _ | _ | _ | _ | _ | _ | _ | _ | _
  case response.some =>
    have part :
        contains (folded message)
          (folded (TransportError.response code message (some data)).message) = true :=
      (contains_iff _ _).mpr ⟨_, _, folded_message_response code message data⟩
    have unmentioned : mentions message "revert" = false := by
      rw [Bool.eq_false_iff]
      intro mentioned
      exact Bool.eq_false_iff.mp (only.others "revert" (by decide))
        (contains_of_contains mentioned part)
    rw [ofError, unmentioned, if_neg Bool.false_ne_true]
  all_goals rfl

end OnlyUnknown

end ContractGateway.FailureKind
