import ContractGateway.Text.Utf8

/-!
# Texts survive UTF-8

Reading the bytes of a text gives its characters back, so nothing is there to repair:
`Utf8.repair_encode`. The bytes of one character are read in any bytes that follow them, by the
number of bytes it takes.
-/

namespace ContractGateway.Utf8

section Steps

variable {payload low high more : Nat} {byte : UInt8} (rest : Bytes)

/-- A byte that starts a character and does not finish it. -/
theorem piecesFrom_opening
    (opens : opening byte.toNat = ([], .inside payload low high more)) :
    piecesFrom .between (byte :: rest) = piecesFrom (.inside payload low high more) rest := by
  simp [piecesFrom, step, opens]

/-- A byte that carries a character on. -/
theorem piecesFrom_continued
    (within : low ≤ byte.toNat ∧ byte.toNat ≤ high) :
    piecesFrom (.inside payload low high (more + 1)) (byte :: rest) =
      piecesFrom (.inside (payload * 64 + (byte.toNat - 0x80)) 0x80 0xBF more) rest := by
  simp [piecesFrom, step, within]

/-- A byte that finishes a character. -/
theorem piecesFrom_finished
    (within : low ≤ byte.toNat ∧ byte.toNat ≤ high) :
    piecesFrom (.inside payload low high 0) (byte :: rest) =
      some (Char.ofNat (payload * 64 + (byte.toNat - 0x80))) :: piecesFrom .between rest := by
  simp [piecesFrom, step, within]

end Steps

section Openings

theorem opening_single
    {code : Nat}
    (small : code ≤ 0x7F) :
    opening code = ([some (Char.ofNat code)], .between) := by
  simp [opening, small]

theorem opening_double
    {lead : Nat}
    (least : 2 ≤ lead)
    (most : lead < 32) :
    opening (lead + 0xC0) = ([], .inside lead 0x80 0xBF 0) := by
  have leads :
      ∀ lead : Fin 32,
        2 ≤ lead.val → opening (lead.val + 0xC0) = ([], .inside lead.val 0x80 0xBF 0) := by
    decide
  exact leads ⟨lead, most⟩ least

theorem opening_triple
    {lead : Nat}
    (most : lead < 16) :
    opening (lead + 0xE0) =
      ([], .inside lead (if lead = 0 then 0xA0 else 0x80) (if lead = 0xD then 0x9F else 0xBF)
        1) := by
  have leads :
      ∀ lead : Fin 16,
        opening (lead.val + 0xE0) =
          ([], .inside lead.val (if lead.val = 0 then 0xA0 else 0x80)
            (if lead.val = 0xD then 0x9F else 0xBF) 1) := by
    decide
  exact leads ⟨lead, most⟩

theorem opening_quadruple
    {lead : Nat}
    (most : lead < 5) :
    opening (lead + 0xF0) =
      ([], .inside lead (if lead = 0 then 0x90 else 0x80) (if lead = 4 then 0x8F else 0xBF)
        2) := by
  have leads :
      ∀ lead : Fin 5,
        opening (lead.val + 0xF0) =
          ([], .inside lead.val (if lead.val = 0 then 0x90 else 0x80)
            (if lead.val = 4 then 0x8F else 0xBF) 2) := by
    decide
  exact leads ⟨lead, most⟩

end Openings

/-- The numbers that characters have. -/
theorem toNat_scalar (character : Char) :
    character.toNat < 0xD800 ∨ 0xDFFF < character.toNat ∧ character.toNat < 0x110000 :=
  character.valid

theorem toNat_ofNat_of_lt
    {value : Nat}
    (small : value < 256) :
    (UInt8.ofNat value).toNat = value := by
  rw [UInt8.toNat_ofNat']
  exact Nat.mod_eq_of_lt small

/-- The bytes of a character read as that character, whatever follows. -/
theorem piecesFrom_utf8EncodeChar
    (character : Char)
    (rest : Bytes) :
    piecesFrom .between (String.utf8EncodeChar character ++ rest) =
      some character :: piecesFrom .between rest := by
  have scalar := toNat_scalar character
  have whole : Char.ofNat character.toNat = character := Char.ofNat_toNat character
  have code : character.val.toNat = character.toNat := rfl
  generalize character.toNat = number at scalar whole code
  rw [String.utf8EncodeChar, code, ← whole]
  by_cases single : number ≤ 0x7F
  · have byte := toNat_ofNat_of_lt (show number < 256 by omega)
    simp only [single, if_true, List.cons_append, List.nil_append, piecesFrom, step, byte,
      opening_single single]
  by_cases double : number ≤ 0x7FF
  · have first := toNat_ofNat_of_lt (show number / 64 % 32 + 0xC0 < 256 by omega)
    have second := toNat_ofNat_of_lt (show number % 64 + 0x80 < 256 by omega)
    have payload : number / 64 % 32 * 64 + (number % 64 + 0x80 - 0x80) = number := by omega
    simp only [single, double, if_false, if_true, List.cons_append, List.nil_append]
    rw [piecesFrom_opening _ (first ▸ opening_double (by omega) (by omega)),
      piecesFrom_finished _ (by omega), second, payload]
  by_cases triple : number ≤ 0xFFFF
  · have first := toNat_ofNat_of_lt (show number / 4096 % 16 + 0xE0 < 256 by omega)
    have second := toNat_ofNat_of_lt (show number / 64 % 64 + 0x80 < 256 by omega)
    have third := toNat_ofNat_of_lt (show number % 64 + 0x80 < 256 by omega)
    have payload :
        (number / 4096 % 16 * 64 + (number / 64 % 64 + 0x80 - 0x80)) * 64 +
            (number % 64 + 0x80 - 0x80) =
          number := by
      omega
    simp only [single, double, triple, if_false, if_true, List.cons_append, List.nil_append]
    rw [piecesFrom_opening _ (first ▸ opening_triple (by omega)),
      piecesFrom_continued _ (by split <;> split <;> omega), piecesFrom_finished _ (by omega),
      second, third, payload]
  · have first := toNat_ofNat_of_lt (show number / 262144 % 8 + 0xF0 < 256 by omega)
    have second := toNat_ofNat_of_lt (show number / 4096 % 64 + 0x80 < 256 by omega)
    have third := toNat_ofNat_of_lt (show number / 64 % 64 + 0x80 < 256 by omega)
    have fourth := toNat_ofNat_of_lt (show number % 64 + 0x80 < 256 by omega)
    have payload :
        ((number / 262144 % 8 * 64 + (number / 4096 % 64 + 0x80 - 0x80)) * 64 +
                (number / 64 % 64 + 0x80 - 0x80)) * 64 +
            (number % 64 + 0x80 - 0x80) =
          number := by
      omega
    simp only [single, double, triple, if_false, List.cons_append, List.nil_append]
    rw [piecesFrom_opening _ (first ▸ opening_quadruple (by omega)),
      piecesFrom_continued _ (by split <;> split <;> omega), piecesFrom_continued _ (by omega),
      piecesFrom_finished _ (by omega), second, third, fourth, payload]

/-- The bytes of a text are cut into its characters. -/
theorem pieces_encode (text : String) : pieces (encode text) = text.toList.map some := by
  rw [pieces, encode]
  induction text.toList with
  | nil =>
      rfl
  | cons first rest inductionHypothesis =>
      rw [List.flatMap_cons, piecesFrom_utf8EncodeChar, inductionHypothesis, List.map_cons]

section Emptiness

/-- No byte goes by without a trace. -/
theorem step_ne_idle
    (position : Position)
    (byte : Nat) :
    step position byte ≠ ([], .between) := by
  have opens : opening byte ≠ ([], .between) := by
    unfold opening
    repeat' split
    all_goals simp
  cases position with
  | between =>
      exact opens
  | inside payload low high more =>
      rw [step]
      split
      · cases more <;> simp
      · simp

/-- Bytes without a single piece are none at all. -/
theorem eq_nil_of_piecesFrom
    {position : Position}
    {bytes : Bytes}
    (nothing : piecesFrom position bytes = []) :
    position = .between ∧ bytes = [] := by
  induction bytes generalizing position with
  | nil =>
      cases position with
      | between => exact ⟨rfl, rfl⟩
      | inside => cases nothing
  | cons byte rest inductionHypothesis =>
      rw [piecesFrom] at nothing
      obtain ⟨silent, behind⟩ := List.append_eq_nil_iff.mp nothing
      obtain ⟨onward, -⟩ := inductionHypothesis behind
      exact (step_ne_idle position byte.toNat (Prod.ext silent onward)).elim

/-- Only the empty byte string reads as the empty text. -/
theorem eq_nil_of_decode?
    {bytes : Bytes}
    (decodes : decode? bytes = some "") :
    bytes = [] := by
  obtain ⟨characters, read, empty⟩ := Option.map_eq_some_iff.mp decodes
  obtain rfl : characters = [] := by simpa using congrArg String.toList empty
  have whole : pieces bytes = [] := by
    cases cut : pieces bytes with
    | nil => rfl
    | cons piece rest => simp [cut, List.mapM_cons, Option.bind_eq_some_iff] at read
  exact (eq_nil_of_piecesFrom whole).2

end Emptiness

/-- A text that is written and read is unchanged. -/
theorem repair_encode (text : String) : repair (encode text) = text := by
  simp [repair, pieces_encode, Function.comp_def, String.ofList_toList]

end ContractGateway.Utf8
