import ContractGateway.Proofs.Abi.Unique
import ContractGateway.Proofs.Json.Quoted
import ContractGateway.Proofs.Text.Utf8
import ContractGateway.Revert.Interfaces

/-!
# What reasons say

Revert data can be read in several ways, and of these only a registered parser can give an empty
text: `Revert.reasonOfData?_eq_empty_iff`. Where none does, what is reported of a revert is never
empty: `Revert.reasonOfCall_ne_empty` and `Revert.reasonOfError_ne_empty`. The parsers of declared
interfaces are such ones. Data that carry a text give this text and nothing else:
`Revert.reasonOfData?_errorData`.
-/

namespace ContractGateway

namespace TransportError

/-- Data are found again in the hexadecimal text that a node writes them as. -/
theorem revertData?_hex
    (code : Int)
    (message : String)
    (data : Bytes) :
    (response code message (some (Json.quotedString (Bytes.toHex data)))).revertData? =
      some data := by
  rw [revertData?, Json.parse?_quotedString]
  exact Bytes.ofHex?_toHex data

end TransportError

namespace Revert

section Carrying

variable {parsers : List ErrorParser} {reason : String}

/-- Data that carry a text are read as that text. -/
theorem errorText?_errorData
    (countable : (errorData reason).length < 2 ^ 64) :
    errorText? (errorData reason) = some reason := by
  have addressable : AbiValue.AddressableAll [.string reason] := by
    refine ⟨by simp [AbiValue.longestOfAll, AbiValue.longest], ?_⟩
    rw [errorData, List.length_append] at countable
    omega
  have decoded : Abi.decode [.string] (Abi.encode [.string reason]) = .ok [.string reason] :=
    Abi.decode_encode rfl (by decide) addressable
      (by simp [AbiValue.deepest, AbiValue.levels, Abi.depthLimit])
  have behind : (errorData reason).drop 4 = Abi.encode [.string reason] := rfl
  have front : (errorData reason).take 4 = errorSelector := rfl
  rw [errorText?, if_pos front, behind, decoded]

/-- A text other than the empty one is the reason that data give when they carry it. -/
theorem reasonOfData?_errorData
    (nonempty : reason ≠ "")
    (countable : (errorData reason).length < 2 ^ 64) :
    reasonOfData? parsers (errorData reason) = some reason := by
  have filled : (errorData reason).isEmpty = false := rfl
  have spoken : reason.isEmpty = false := by simpa using nonempty
  rw [reasonOfData?, filled, errorText?_errorData countable]
  simp [spoken]

end Carrying

/-- Every text that a registered parser has for revert data says something. -/
def ParsersSpeak (parsers : List ErrorParser) : Prop :=
  ∀ parser ∈ parsers, ∀ data, parser data ≠ some ""

/-- A declared error is described with the name of its interface. -/
theorem parsersSpeak_interfaces (interfaces : List ErrorInterface) :
    ParsersSpeak (interfaces.map ErrorInterface.describe?) := by
  intro parser member data described
  obtain ⟨declaring, -, rfl⟩ := List.mem_map.mp member
  obtain ⟨text, -, empty⟩ := Option.map_eq_some_iff.mp described
  simp at empty

section Emptiness

variable {parsers : List ErrorParser} {data : Bytes} {reason : String}

theorem panicText_ne_empty (code : Nat) : panicText code ≠ "" := by
  rw [panicText]
  cases panicMeaning code <;> simp

/-- The reason that data give is empty only by a parser that has an empty text for them. -/
theorem reasonOfData?_eq_empty_iff :
    reasonOfData? parsers data = some "" ↔
      data ≠ [] ∧ errorText? data = none ∧ panicCode? data = none ∧
        parsedError? parsers data = some "" := by
  rw [reasonOfData?]
  cases data with
  | nil => simp
  | cons byte rest =>
      rw [if_neg (by simp)]
      cases carried : errorText? (byte :: rest) with
      | some text => by_cases silent : text = "" <;> simp [silent]
      | none =>
          cases panicked : panicCode? (byte :: rest) with
          | some code => simp [panicText_ne_empty code]
          | none =>
              have spoken : Utf8.decode? (byte :: rest) ≠ some "" := fun empty =>
                List.cons_ne_nil _ _ (Utf8.eq_nil_of_decode? empty)
              cases parsedError? parsers (byte :: rest) <;> simp [spoken]

/-- Whichever way revert data are read, the reason is not empty. -/
theorem reasonOfData?_ne_empty
    (speak : ParsersSpeak parsers)
    (reads : reasonOfData? parsers data = some reason) :
    reason ≠ "" := by
  rintro rfl
  obtain ⟨-, -, -, parsed⟩ := reasonOfData?_eq_empty_iff.mp reads
  obtain ⟨parser, member, silent⟩ := List.exists_of_findSome?_eq_some parsed
  exact speak parser member data silent

/-- A reverted call of a batch has a reason that is not empty. -/
theorem reasonOfCall_ne_empty
    (speak : ParsersSpeak parsers)
    (data : Bytes) :
    reasonOfCall parsers data ≠ "" := by
  rw [reasonOfCall]
  cases reads : reasonOfData? parsers data with
  | none => simp
  | some reason => exact reasonOfData?_ne_empty speak reads

/-- A failed dry run has a reason that is not empty, whatever the node answers. -/
theorem reasonOfError_ne_empty
    (speak : ParsersSpeak parsers)
    (cause : TransportError) :
    reasonOfError parsers cause ≠ "" := by
  rw [reasonOfError]
  split
  · rename_i reason reads
    obtain ⟨data, -, reads⟩ := Option.bind_eq_some_iff.mp reads
    exact reasonOfData?_ne_empty speak reads
  · dsimp only
    split
    · simp
    · rename_i spoken
      intro empty
      rw [empty] at spoken
      exact spoken rfl

end Emptiness

end Revert

end ContractGateway
