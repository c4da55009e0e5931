/-!
# Wordings in free text

Nodes report failures in free text, and what they mean is read off the wordings that occur in
them. `folded` lower-cases a text as far as an ASCII wording can see, `contains` looks for a
wording, and `isBlank` recognises texts that say nothing.
-/

namespace ContractGateway.Text

/--
The lower-case form of a character, as far as ASCII letters are concerned: besides the capital
ASCII letters only the Kelvin sign and the dotted capital I fold to an ASCII letter. Every
other character has a lower case without ASCII characters and stands for itself.
-/
def foldCharacter (character : Char) : List Char :=
  if 'A' ≤ character ∧ character ≤ 'Z' then [Char.ofNat (character.toNat + 32)]
  else if character = '\u212A' then ['k']
  else if character = '\u0130' then ['i', '\u0307']
  else [character]

/-- The characters of a text in lower case. -/
def folded (text : String) : List Char := text.toList.flatMap foldCharacter

/-- Whether a wording occurs in a run of characters. -/
def contains (wording : List Char) : List Char → Bool
  | [] => wording.isEmpty
  | first :: rest => wording.isPrefixOf (first :: rest) || contains wording rest

/-- Whether a wording occurs in a text, letter case aside. -/
def mentions (text wording : String) : Bool := contains wording.toList (folded text)

/-- White space: the characters that leave a text blank. -/
def isSpace (character : Char) : Bool :=
  let code := character.toNat
  (0x9 ≤ code && code ≤ 0xD) || code = 0x20 || code = 0x85 || code = 0xA0 || code = 0x1680 ||
    (0x2000 ≤ code && code ≤ 0x200A) || code = 0x2028 || code = 0x2029 || code = 0x202F ||
    code = 0x205F || code = 0x3000

/-- Whether a text is empty or white space throughout. -/
def isBlank (text : String) : Bool := text.toList.all isSpace

/-- A wording occurs exactly when the run splits around it. -/
theorem contains_iff (wording characters : List Char) :
    contains wording characters = true ↔
      ∃ before after, characters = before ++ wording ++ after := by
  induction characters with
  | nil =>
      simp only [contains, List.isEmpty_iff]
      constructor
      · rintro rfl
        exact ⟨[], [], rfl⟩
      · rintro ⟨before, after, split⟩
        have parts := List.append_eq_nil_iff.mp split.symm
        exact (List.append_eq_nil_iff.mp parts.1).2
  | cons first rest inductionHypothesis =>
      simp only [contains, Bool.or_eq_true, List.isPrefixOf_iff_prefix, inductionHypothesis]
      constructor
      · rintro (⟨after, starts⟩ | ⟨before, after, split⟩)
        · exact ⟨[], after, by simpa using starts.symm⟩
        · exact ⟨first :: before, after, by simp [split]⟩
      · rintro ⟨before, after, split⟩
        cases before with
        | nil => exact Or.inl ⟨after, by simpa using split.symm⟩
        | cons head before =>
            simp only [List.cons_append, List.cons.injEq] at split
            exact Or.inr ⟨before, after, split.2⟩

end ContractGateway.Text
