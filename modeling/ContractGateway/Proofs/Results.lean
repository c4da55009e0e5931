/-!
# Results of several steps

Steps that can fail are taken one after the other: a run that succeeds took each of them, and a list
that does not convert has an item that does not.
-/

namespace ContractGateway.Results

variable {α β ε : Type}

@[simp] theorem mapError_ok (reword : ε → β) (value : α) :
    (Except.ok value : Except ε α).mapError reword = .ok value := rfl

/-- A run that succeeds got through its first step and through the rest. -/
theorem exists_ok_of_bind
    {first : Except ε α}
    {next : α → Except ε β}
    {result : β}
    (succeeds : (first >>= next) = .ok result) :
    ∃ value, first = .ok value ∧ next value = .ok result := by
  cases first with
  | error cause => cases succeeds
  | ok value => exact ⟨value, rfl, succeeds⟩

/-- A value that was made from a result was made from a success. -/
theorem exists_ok_of_map
    {result : Except ε α}
    {make : α → β}
    {value : β}
    (succeeds : result.map make = .ok value) :
    ∃ found, result = .ok found ∧ make found = value := by
  cases result with
  | error cause => cases succeeds
  | ok found => exact ⟨found, rfl, Except.ok.inj succeeds⟩

/-- What was made from a result fails only with the error of that result. -/
theorem error_of_map
    {result : Except ε α}
    {make : α → β}
    {error : ε}
    (fails : result.map make = .error error) :
    result = .error error := by
  cases result with
  | error cause => exact congrArg _ (Except.error.inj fails)
  | ok found => cases fails

theorem map_eq_error_iff
    {result : Except ε α}
    {make : α → β}
    {error : ε} :
    result.map make = .error error ↔ result = .error error := by
  refine ⟨error_of_map, fun fails => ?_⟩
  rw [fails]
  rfl

/-- What succeeds has no error to be put in other words. -/
theorem ok_of_mapError
    {result : Except ε α}
    {reword : ε → β}
    {value : α}
    (succeeds : result.mapError reword = .ok value) :
    result = .ok value := by
  cases result with
  | error cause => cases succeeds
  | ok found =>
      cases succeeds
      rfl

/-- A run that fails does so in its first step or behind it. -/
theorem error_of_bind
    {first : Except ε α}
    {next : α → Except ε β}
    {error : ε}
    (fails : (first >>= next) = .error error) :
    first = .error error ∨ ∃ value, first = .ok value ∧ next value = .error error := by
  cases first with
  | error cause =>
      cases fails
      exact .inl rfl
  | ok value => exact .inr ⟨value, rfl, fails⟩

/-- An error in other words is an error. -/
theorem exists_error_of_mapError
    {result : Except ε α}
    {reword : ε → β}
    {error : β}
    (fails : result.mapError reword = .error error) :
    ∃ cause, result = .error cause ∧ reword cause = error := by
  cases result with
  | error cause => exact ⟨cause, rfl, Except.error.inj fails⟩
  | ok value => cases fails

/-- A list that converts does so item by item. -/
theorem exists_ok_of_mapM_cons
    {convert : α → Except ε β}
    {first : α}
    {rest : List α}
    {results : List β}
    (converts : (first :: rest).mapM convert = .ok results) :
    ∃ result others,
      convert first = .ok result ∧ rest.mapM convert = .ok others ∧ results = result :: others := by
  rw [List.mapM_cons] at converts
  obtain ⟨result, here, converts⟩ := exists_ok_of_bind converts
  obtain ⟨others, behind, same⟩ := exists_ok_of_bind converts
  exact ⟨result, others, here, behind, (Except.ok.inj same).symm⟩

/-- A list that does not convert fails in its first item or behind it. -/
theorem mapM_cons_eq_error_iff
    {convert : α → Except ε β}
    {first : α}
    {rest : List α}
    {error : ε} :
    (first :: rest).mapM convert = .error error ↔
      convert first = .error error ∨
        ∃ result, convert first = .ok result ∧ rest.mapM convert = .error error := by
  rw [List.mapM_cons]
  constructor
  · intro fails
    rcases error_of_bind fails with here | ⟨result, here, fails⟩
    · exact .inl here
    · rcases error_of_bind fails with behind | ⟨others, -, never⟩
      · exact .inr ⟨result, here, behind⟩
      · cases never
  · rintro (here | ⟨result, here, behind⟩)
    · rw [here]
      rfl
    · rw [here]
      change (rest.mapM convert >>= _) = _
      rw [behind]
      rfl

/-- A list that does not convert fails with the error of its first item that does not. -/
theorem mapM_eq_error_iff
    {convert : α → Except ε β}
    {items : List α}
    {error : ε} :
    items.mapM convert = .error error ↔
      ∃ before offending behind,
        items = before ++ offending :: behind ∧
          (∀ item ∈ before, ∃ result, convert item = .ok result) ∧
          convert offending = .error error := by
  induction items with
  | nil =>
      constructor
      · rintro ⟨⟩
      · rintro ⟨before, offending, behind, split, -⟩
        simp at split
  | cons first rest inductionHypothesis =>
      rw [mapM_cons_eq_error_iff, inductionHypothesis]
      constructor
      · rintro (here | ⟨result, here, before, offending, behind, rfl, converts, fails⟩)
        · exact ⟨[], first, rest, rfl, by simp, here⟩
        · exact
            ⟨first :: before, offending, behind, rfl,
              List.forall_mem_cons.mpr ⟨⟨result, here⟩, converts⟩, fails⟩
      · rintro ⟨before, offending, behind, split, converts, fails⟩
        cases before with
        | nil =>
            cases split
            exact .inl fails
        | cons head before =>
            cases split
            obtain ⟨⟨result, here⟩, converts⟩ := List.forall_mem_cons.mp converts
            exact .inr ⟨result, here, before, offending, behind, rfl, converts, fails⟩

/-- A list that does not convert has an item that fails. -/
theorem exists_error_of_mapM
    {convert : α → Except ε β}
    {items : List α}
    {error : ε}
    (fails : items.mapM convert = .error error) :
    ∃ item ∈ items, convert item = .error error := by
  obtain ⟨before, offending, behind, rfl, -, failed⟩ := mapM_eq_error_iff.mp fails
  exact ⟨offending, by simp, failed⟩

/-- A list that converts is converted back as its items are, up to what is told of an item. -/
theorem exists_ok_of_mapM_back
    {δ κ : Type}
    {convert : α → Except ε β}
    {back : β → Except δ α}
    (told : α → κ)
    (each :
      ∀ {item result},
        convert item = .ok result → ∃ other, back result = .ok other ∧ told other = told item)
    {items : List α}
    {results : List β}
    (converts : items.mapM convert = .ok results) :
    ∃ others, results.mapM back = .ok others ∧ others.map told = items.map told := by
  induction items generalizing results with
  | nil =>
      cases converts
      exact ⟨[], rfl, rfl⟩
  | cons item rest inductionHypothesis =>
      obtain ⟨result, results, here, behind, rfl⟩ := exists_ok_of_mapM_cons converts
      obtain ⟨other, back_here, same⟩ := each here
      obtain ⟨others, back_behind, sameBehind⟩ := inductionHypothesis behind
      refine ⟨other :: others, ?_, by rw [List.map_cons, same, sameBehind, List.map_cons]⟩
      rw [List.mapM_cons, back_here]
      change (results.mapM back >>= _) = _
      rw [back_behind]
      rfl

/-- Lists of which the same is told convert to the same when that holds of their items. -/
theorem mapM_eq_ok_of_map_eq
    {κ : Type}
    {convert : α → Except ε β}
    {told : α → κ}
    (each :
      ∀ {item other result},
        told other = told item → convert item = .ok result → convert other = .ok result)
    {items others : List α}
    {results : List β}
    (same : others.map told = items.map told)
    (converts : items.mapM convert = .ok results) :
    others.mapM convert = .ok results := by
  induction items generalizing others results with
  | nil =>
      cases List.map_eq_nil_iff.mp same
      exact converts
  | cons item rest inductionHypothesis =>
      obtain ⟨result, results, here, behind, rfl⟩ := exists_ok_of_mapM_cons converts
      obtain ⟨other, others, rfl, sameHere, sameBehind⟩ := List.map_eq_cons_iff.mp same
      rw [List.mapM_cons, each sameHere here]
      change (others.mapM convert >>= _) = _
      rw [inductionHypothesis sameBehind behind]
      rfl

end ContractGateway.Results
