import ContractGateway.Json
import Mathlib.Tactic.IntervalCases
import Mathlib.Tactic.SplitIfs

/-!
# Strings survive JSON

A text that is written as a JSON string reads back as itself: `Json.parse?_quotedString`. Each
character is written in a form that one step of the reader takes off, be it the character itself, a
backslash with a letter, or the four digits of a control character.
-/

namespace ContractGateway.Json

/-- A control character is written with four digits, and these are its number. -/
theorem unicodeEscape?_control
    {code : Nat}
    (control : code < 0x20)
    (rest : List Char) :
    let digits := Text.hexOfNat code
    unicodeEscape? (List.replicate (4 - digits.length) '0' ++ digits ++ rest) =
      some (Char.ofNat code, rest) := by
  interval_cases code <;> rfl

/-- One step of the reader takes one written character off. -/
theorem stringBody?_escapedCharacter
    (fuel : Nat)
    (read : List Char)
    (character : Char)
    (rest : List Char) :
    stringBody? (fuel + 1) read (escapedCharacter character ++ rest) =
      stringBody? fuel (character :: read) rest := by
  rw [escapedCharacter]
  split_ifs with quote backslash feed carriage tab backspace form control
  · rw [quote]
    rfl
  · rw [backslash]
    rfl
  · rw [feed]
    rfl
  · rw [carriage]
    rfl
  · rw [tab]
    rfl
  · rw [backspace]
    rfl
  · rw [form]
    rfl
  · have digits := unicodeEscape?_control control rest
    rw [Char.ofNat_toNat] at digits
    simp only [List.append_assoc] at digits
    simp only [List.append_assoc, List.cons_append, List.nil_append, stringBody?, digits,
      Option.bind_eq_bind, Option.bind_some]
  · have plain : ¬ (character.toNat < 0x20 ∨ character = '\\') := by simp [control, backslash]
    rw [List.singleton_append, stringBody?]
    · exact if_neg plain
    · exact fun same => quote same
    all_goals
      intros
      contradiction

/-- The reader takes the whole of a written text off, up to the quote behind it. -/
theorem stringBody?_written
    {fuel : Nat}
    (read characters rest : List Char)
    (enough : characters.length < fuel) :
    stringBody? fuel read (characters.flatMap escapedCharacter ++ '"' :: rest) =
      some (String.ofList (read.reverse ++ characters), rest) := by
  induction characters generalizing fuel read with
  | nil =>
      obtain ⟨fuel, rfl⟩ := Nat.exists_eq_succ_of_ne_zero (Nat.ne_of_gt enough)
      rw [List.append_nil]
      rfl
  | cons character characters inductionHypothesis =>
      obtain ⟨fuel, rfl⟩ := Nat.exists_eq_succ_of_ne_zero (Nat.ne_of_gt (Nat.zero_lt_of_lt enough))
      rw [List.flatMap_cons, List.append_assoc, stringBody?_escapedCharacter,
        inductionHypothesis _ (Nat.lt_of_succ_lt_succ enough), List.reverse_cons, List.append_assoc]
      rfl

/-- A character takes at least one to write. -/
theorem length_le_escaped (characters : List Char) :
    characters.length ≤ (characters.flatMap escapedCharacter).length := by
  induction characters with
  | nil =>
      exact Nat.le_refl _
  | cons character characters inductionHypothesis =>
      have some : 0 < (escapedCharacter character).length := by
        rw [escapedCharacter]
        split_ifs <;> simp
      rw [List.flatMap_cons, List.length_append, List.length_cons]
      omega

/-- A text that is written as a JSON string reads back as itself. -/
theorem parse?_quotedString (text : String) :
    parse? (quotedString text) = some (.string text) := by
  have enough :
      text.toList.length < (text.toList.flatMap escapedCharacter ++ ['"']).length + 1 := by
    have most := length_le_escaped text.toList
    rw [List.length_append]
    omega
  have body := stringBody?_written [] text.toList [] enough
  rw [List.reverse_nil, List.nil_append, String.ofList_toList] at body
  have opens (rest : List Char) : skipBlanks ('"' :: rest) = '"' :: rest := rfl
  rw [parse?, quotedString, String.toList_ofList]
  simp only [value?, List.cons_append, opens, body]
  rfl

end ContractGateway.Json
