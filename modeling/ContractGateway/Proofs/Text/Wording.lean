import ContractGateway.Text.Wording

/-!
# Wordings in composed texts

A wording that lacks a character cannot stand across it: in a text that is put together around a
separator, it occurs on one side or on the other (`contains_append_cons`). It cannot occur at all in
a run that lacks one of its own characters (`not_contains_of_missing`).
-/

namespace ContractGateway.Text

@[simp] theorem folded_append (first second : String) :
    folded (first ++ second) = folded first ++ folded second := by
  simp [folded]

/-- A character that folding keeps away from stands in no folded text without it. -/
theorem notMem_folded
    {letter : Char}
    {text : String}
    (unfolded : ∀ character ∈ text.toList, letter ∉ foldCharacter character) :
    letter ∉ folded text := by
  simpa [folded] using unfolded

/-- A wording without the separator begins before it when it is whole there. -/
theorem isPrefix_append_cons
    {separator : Char}
    {wording : List Char}
    (lacks : separator ∉ wording)
    (before after : List Char) :
    wording <+: before ++ separator :: after ↔ wording <+: before := by
  induction wording generalizing before with
  | nil =>
      simp
  | cons first rest inductionHypothesis =>
      simp only [List.mem_cons, not_or] at lacks
      cases before with
      | nil =>
          simp [List.cons_prefix_cons, Ne.symm lacks.1]
      | cons head before =>
          simp [List.cons_prefix_cons, inductionHypothesis lacks.2]

/-- A wording without the separator occurs before it or behind it. -/
theorem contains_append_cons
    {separator : Char}
    {wording : List Char}
    (lacks : separator ∉ wording)
    (nonempty : wording ≠ [])
    (before after : List Char) :
    contains wording (before ++ separator :: after) =
      (contains wording before || contains wording after) := by
  have starts (run : List Char) :
      wording.isPrefixOf (run ++ separator :: after) = wording.isPrefixOf run := by
    rw [Bool.eq_iff_iff, List.isPrefixOf_iff_prefix, List.isPrefixOf_iff_prefix]
    exact isPrefix_append_cons lacks run after
  have nowhere : contains wording [] = false := by
    simpa [contains] using nonempty
  induction before with
  | nil =>
      change (wording.isPrefixOf ([] ++ separator :: after) || contains wording after) = _
      rw [starts [], nowhere]
      cases wording with
      | nil => exact absurd rfl nonempty
      | cons first rest => rfl
  | cons head before inductionHypothesis =>
      have here := starts (head :: before)
      rw [List.cons_append] at here ⊢
      rw [contains, contains, here, inductionHypothesis, Bool.or_assoc]

/-- A wording does not begin with a character other than its first one. -/
theorem contains_cons_of_ne
    {first other : Char}
    (different : first ≠ other)
    (wording run : List Char) :
    contains (first :: wording) (other :: run) = contains (first :: wording) run := by
  rw [contains]
  simp [List.isPrefixOf, different]

/-- A wording does not occur in a run that lacks one of its characters. -/
theorem not_contains_of_missing
    {letter : Char}
    {wording run : List Char}
    (needed : letter ∈ wording)
    (missing : letter ∉ run) :
    contains wording run = false := by
  rw [Bool.eq_false_iff]
  intro occurs
  obtain ⟨before, after, rfl⟩ := (contains_iff wording run).mp occurs
  exact missing (by simp [needed])

/-- What occurs in a wording occurs wherever that wording does. -/
theorem contains_of_contains
    {inner wording run : List Char}
    (part : contains inner wording = true)
    (occurs : contains wording run = true) :
    contains inner run = true := by
  obtain ⟨front, back, rfl⟩ := (contains_iff inner wording).mp part
  obtain ⟨before, after, rfl⟩ := (contains_iff _ run).mp occurs
  exact (contains_iff inner _).mpr ⟨before ++ front, back ++ after, by simp⟩

end ContractGateway.Text
