import ContractGateway.Transport.Error

/-!
# What the text of JSON data is made of

The readers of JSON data take characters off the front of a text. `Takes allowed input rest` says
that a reader leaves `rest` of `input` and that it only took characters that are allowed.

Bytes are written as a string of hexadecimal digits or as an array of numbers, so their text holds
nothing but marks: hexadecimal digits, blanks, and the few other characters that `Json.isMark`
lists. Whatever wording has another character in it cannot stand in such a text.
-/

namespace ContractGateway

namespace Json

/-- The reader takes allowed characters off the front and leaves the rest. -/
def Takes (allowed : Char → Prop) (input rest : List Char) : Prop :=
  ∃ taken, input = taken ++ rest ∧ ∀ character ∈ taken, allowed character

namespace Takes

variable {allowed : Char → Prop} {input middle rest : List Char}

theorem nothing (rest : List Char) : Takes allowed rest rest :=
  ⟨[], rfl, by simp⟩

theorem cons
    {first : Char}
    (isAllowed : allowed first)
    (takes : Takes allowed input rest) :
    Takes allowed (first :: input) rest := by
  obtain ⟨taken, rfl, allAllowed⟩ := takes
  exact ⟨first :: taken, rfl, by simpa using ⟨isAllowed, allAllowed⟩⟩

theorem trans
    (first : Takes allowed input middle)
    (second : Takes allowed middle rest) :
    Takes allowed input rest := by
  obtain ⟨taken, rfl, allAllowed⟩ := first
  obtain ⟨more, rfl, moreAllowed⟩ := second
  refine ⟨taken ++ more, by simp, ?_⟩
  intro character member
  rcases List.mem_append.mp member with inFirst | inSecond
  · exact allAllowed character inFirst
  · exact moreAllowed character inSecond

theorem weaken
    {wider : Char → Prop}
    (takes : Takes allowed input rest)
    (wide : ∀ character, allowed character → wider character) :
    Takes wider input rest := by
  obtain ⟨taken, rfl, allAllowed⟩ := takes
  exact ⟨taken, rfl, fun character member => wide character (allAllowed character member)⟩

/-- Dropping characters for a reason takes characters for that reason. -/
theorem dropWhile
    {test : Char → Bool}
    (tested : ∀ character, test character = true → allowed character)
    (input : List Char) :
    Takes allowed input (input.dropWhile test) :=
  ⟨input.takeWhile test, List.takeWhile_append_dropWhile.symm, fun character member =>
    tested character (List.all_eq_true.mp List.all_takeWhile character member)⟩

end Takes

/-- A character that writing bytes as JSON brings into a text. -/
def isMark (character : Char) : Bool :=
  character.isDigit || ('a' ≤ character && character ≤ 'f') ||
    ('A' ≤ character && character ≤ 'F') ||
      ['"', '\\', '/', 'n', 'r', 't', 'u', 'x', 'X', ' ', '\n', '\r', '\t', '[', ']', ','].contains
        character

theorem takes_skipBlanks (input : List Char) :
    Takes (isMark · = true) input (skipBlanks input) := by
  refine .dropWhile ?_ input
  intro character blank
  simp only [Bool.or_eq_true, decide_eq_true_eq] at blank
  rcases blank with ((rfl | rfl) | rfl) | rfl <;> rfl

theorem isMark_of_isDigit {character : Char} (digit : character.isDigit = true) :
    isMark character = true := by
  simp [isMark, digit]

/-- Four hexadecimal digits are marks. -/
theorem takes_hexQuad
    {input rest : List Char}
    {value : Nat}
    (quad : hexQuad? input = some (value, rest)) :
    Takes (isMark · = true) input rest := by
  have digit {character : Char} {value : Nat}
      (read :
        (if character.isDigit then some (character.toNat - 48)
          else if 'a' ≤ character ∧ character ≤ 'f' then some (character.toNat - 87)
          else if 'A' ≤ character ∧ character ≤ 'F' then some (character.toNat - 55)
          else none) = some value) :
      isMark character = true := by
    by_cases decimal : character.isDigit = true
    · exact isMark_of_isDigit decimal
    · by_cases lower : 'a' ≤ character ∧ character ≤ 'f'
      · simp [isMark, lower]
      · by_cases upper : 'A' ≤ character ∧ character ≤ 'F'
        · simp [isMark, upper]
        · simp [decimal, lower, upper] at read
  match input, quad with
  | a :: b :: c :: d :: behind, quad =>
      simp only [hexQuad?, Option.bind_eq_bind, Option.bind_eq_some_iff, Option.pure_def,
        Option.some.injEq, Prod.mk.injEq] at quad
      obtain ⟨_, first, _, second, _, third, _, fourth, -, rfl⟩ := quad
      exact .cons (digit first) (.cons (digit second) (.cons (digit third)
        (.cons (digit fourth) (.nothing _))))

theorem takes_unicodeEscape
    {input rest : List Char}
    {character : Char}
    (escape : unicodeEscape? input = some (character, rest)) :
    Takes (isMark · = true) input rest := by
  simp only [unicodeEscape?, Option.bind_eq_bind, Option.bind_eq_some_iff] at escape
  obtain ⟨⟨high, behind⟩, quad, escape⟩ := escape
  refine (takes_hexQuad quad).trans ?_
  dsimp only at escape
  split at escape
  · split at escape
    · rename_i behind
      simp only [Option.bind_eq_some_iff] at escape
      obtain ⟨⟨low, behind⟩, quad, escape⟩ := escape
      have surrogate : Takes (isMark · = true) ('\\' :: 'u' :: _) _ :=
        .cons (by decide) (.cons (by decide) (takes_hexQuad quad))
      refine surrogate.trans ?_
      split at escape
      · obtain ⟨-, rfl⟩ := by simpa using escape
        exact .nothing _
      · cases escape
    · cases escape
  · split at escape
    · cases escape
    · obtain ⟨-, rfl⟩ := by simpa using escape
      exact .nothing _

/-- The string has the characters read so far in front. -/
def Continues (read : List Char) (text : String) : Prop :=
  ∃ more, text.toList = read.reverse ++ more

theorem Continues.shorten
    {character : Char}
    {read : List Char}
    {text : String}
    (continues : Continues (character :: read) text) :
    Continues read text ∧ character ∈ text.toList := by
  obtain ⟨more, split⟩ := continues
  exact ⟨⟨character :: more, by simp [split]⟩, by simp [split]⟩

/--
A string takes marks and characters that it stands for, and it continues what was read of it
before.
-/
theorem takes_stringBody
    {fuel : Nat}
    {read input rest : List Char}
    {text : String}
    (body : stringBody? fuel read input = some (text, rest)) :
    Continues read text ∧
      Takes (fun character => isMark character = true ∨ character ∈ text.toList) input rest := by
  fun_induction stringBody? fuel read input with
  | case1 => cases body
  | case2 => cases body
  | case3 fuel read behind =>
      obtain ⟨rfl, rfl⟩ := by simpa using body
      exact ⟨⟨[], by simp⟩, .cons (.inl (by decide)) (.nothing _)⟩
  | case4 fuel read behind inductionHypothesis =>
      obtain ⟨⟨character, behind⟩, escape, body⟩ := Option.bind_eq_some_iff.mp body
      obtain ⟨continues, takes⟩ := inductionHypothesis _ _ body
      have escaped :
          Takes (fun character => isMark character = true ∨ character ∈ text.toList) _ _ :=
        (takes_unicodeEscape escape).weaken fun _ mark => .inl mark
      exact
        ⟨continues.shorten.1,
          .cons (.inl (by decide)) (.cons (.inl (by decide)) (escaped.trans takes))⟩
  | case5 _ _ _ _ _ inductionHypothesis
  | case6 _ _ _ _ _ inductionHypothesis
  | case7 _ _ _ _ _ inductionHypothesis
  | case8 _ _ _ _ _ inductionHypothesis
  | case9 _ _ _ _ _ inductionHypothesis
  | case10 _ _ _ _ _ inductionHypothesis
  | case11 _ _ _ _ _ inductionHypothesis
  | case12 _ _ _ _ _ inductionHypothesis =>
      -- an escape of one character
      obtain ⟨continues, takes⟩ := inductionHypothesis _ body
      exact ⟨continues.shorten.1, .cons (.inl (by decide)) (.cons (.inl (by decide)) takes)⟩
  | case13 => cases body
  | case14 => cases body
  | case15 fuel read character behind _ _ _ _ inductionHypothesis =>
      obtain ⟨continues, takes⟩ := inductionHypothesis body
      exact ⟨continues.shorten.1, .cons (.inr continues.shorten.2) takes⟩

theorem digits_eq
    {input found rest : List Char}
    (read : digits? input = some (found, rest)) :
    input = found ++ rest := by
  rw [digits?] at read
  split at read
  · cases read
  · obtain ⟨rfl, rfl⟩ := by simpa using read
    exact List.takeWhile_append_dropWhile.symm

theorem fraction_eq
    {input found rest : List Char}
    (read : fraction? input = some (found, rest)) :
    input = found ++ rest := by
  unfold fraction? at read
  split at read
  · obtain ⟨⟨digits, behind⟩, fraction, same⟩ := Option.map_eq_some_iff.mp read
    obtain ⟨rfl, rfl⟩ := by simpa using same
    rw [digits_eq fraction]
    rfl
  · obtain ⟨rfl, rfl⟩ := by simpa using read
    rfl

theorem exponent_eq
    {input found rest : List Char}
    (read : exponent? input = some (found, rest)) :
    input = found ++ rest := by
  unfold exponent? at read
  split at read
  · split at read
    · split at read <;>
      · obtain ⟨⟨digits, behind⟩, exponent, same⟩ := Option.map_eq_some_iff.mp read
        obtain ⟨rfl, rfl⟩ := by simpa using same
        rw [digits_eq exponent]
        rfl
    · obtain ⟨rfl, rfl⟩ := by simpa using read
      rfl
  · obtain ⟨rfl, rfl⟩ := by simpa using read
    rfl

/-- A number stands for itself. -/
theorem number_eq
    {input rest : List Char}
    {text : String}
    (read : number? input = some (text, rest)) :
    input = text.toList ++ rest := by
  unfold number? at read
  split at read
  rename_i sign unsigned signed
  have whole : input = sign ++ unsigned := by
    split at signed <;> obtain ⟨rfl, rfl⟩ := by simpa using signed
    · rfl
    · rfl
  simp only [Option.bind_eq_bind, Option.bind_eq_some_iff] at read
  obtain ⟨⟨digits, behindDigits⟩, digitsRead, read⟩ := read
  split at read
  · cases read
  · simp only [Option.bind_eq_some_iff] at read
    obtain ⟨⟨fraction, behindFraction⟩, fractionRead, ⟨exponent, behind⟩, exponentRead, same⟩ :=
      read
    obtain ⟨rfl, rfl⟩ := by simpa using same
    have behindFractionSplit : behindFraction = exponent ++ behind := exponent_eq exponentRead
    rw [whole, digits_eq digitsRead, fraction_eq fractionRead, behindFractionSplit]
    simp

/-- The characters of the value's strings and numbers are marks. -/
inductive Plain : Json → Prop where
  | string
      (text : String)
      (marks : ∀ character ∈ text.toList, isMark character = true) :
      Plain (.string text)
  | number
      (text : String)
      (marks : ∀ character ∈ text.toList, isMark character = true) :
      Plain (.number text)
  | array
      (items : List Json)
      (plain : ∀ item ∈ items, Plain item) :
      Plain (.array items)

/-- The reader of a plain value takes marks only. -/
def TakesPlain (fuel : Nat) : Prop :=
  ∀ input json rest,
    value? fuel input = some (json, rest) → Plain json → Takes (isMark · = true) input rest

/-- The reader of plain items takes marks only. -/
def TakesPlainItems (fuel : Nat) : Prop :=
  ∀ input items rest,
    items? fuel input = some (items, rest) →
      (∀ item ∈ items, Plain item) → Takes (isMark · = true) input rest

theorem takesPlainItems_succ
    {fuel : Nat}
    (values : TakesPlain fuel)
    (more : TakesPlainItems fuel) :
    TakesPlainItems (fuel + 1) := by
  intro input items rest read plain
  unfold items? at read
  obtain ⟨⟨item, behind⟩, first, read⟩ := Option.bind_eq_some_iff.mp read
  have blanks := takes_skipBlanks behind
  dsimp only at read
  split at read
  · rename_i behindComma separator
    obtain ⟨⟨others, behindOthers⟩, next, same⟩ := Option.bind_eq_some_iff.mp read
    obtain ⟨rfl, rfl⟩ := by simpa using same
    rw [separator] at blanks
    refine (values _ _ _ first (plain item (by simp))).trans (blanks.trans ?_)
    exact .cons (by decide) (more _ _ _ next fun other member => plain other (by simp [member]))
  · rename_i behindBracket closing
    obtain ⟨rfl, rfl⟩ := by simpa using read
    rw [closing] at blanks
    refine (values _ _ _ first (plain item (by simp))).trans (blanks.trans ?_)
    exact .cons (by decide) (.nothing _)
  · cases read

theorem takesPlain_succ
    {fuel : Nat}
    (items : TakesPlainItems fuel) :
    TakesPlain (fuel + 1) := by
  intro input json rest read plain
  refine (takes_skipBlanks input).trans ?_
  unfold value? at read
  split at read
  case h_1 | h_2 | h_3 =>
    -- a word
    obtain ⟨rfl, rfl⟩ := by simpa using read
    cases plain
  case h_4 start behind opening =>
    obtain ⟨⟨text, behindText⟩, body, same⟩ := Option.map_eq_some_iff.mp read
    obtain ⟨rfl, rfl⟩ := by simpa using same
    cases plain with
    | string text marks =>
        rw [opening]
        refine .cons (by decide) ((takes_stringBody body).2.weaken ?_)
        rintro character (mark | member)
        · exact mark
        · exact marks character member
  case h_5 start behind opening =>
    have blanks := takes_skipBlanks behind
    rw [opening]
    refine .cons (by decide) (blanks.trans ?_)
    split at read
    · rename_i behindBracket closing
      obtain ⟨rfl, rfl⟩ := by simpa using read
      rw [closing]
      exact .cons (by decide) (.nothing _)
    · obtain ⟨⟨found, behindItems⟩, itemsRead, same⟩ := Option.map_eq_some_iff.mp read
      obtain ⟨rfl, rfl⟩ := by simpa using same
      cases plain with
      | array found plain =>
          exact items _ _ _ itemsRead plain
  case h_6 start behind opening =>
    -- an object
    split at read
    · obtain ⟨rfl, rfl⟩ := by simpa using read
      cases plain
    · obtain ⟨⟨fields, behindFields⟩, fieldsRead, same⟩ := Option.map_eq_some_iff.mp read
      obtain ⟨rfl, rfl⟩ := by simpa using same
      cases plain
  case h_7 =>
    obtain ⟨⟨text, behindText⟩, number, same⟩ := Option.map_eq_some_iff.mp read
    obtain ⟨rfl, rfl⟩ := by simpa using same
    cases plain with
    | number text marks =>
        exact ⟨text.toList, number_eq number, marks⟩

/-- Plain values and plain items are read together, one level of fuel after the other. -/
theorem takesPlain (fuel : Nat) : TakesPlain fuel ∧ TakesPlainItems fuel := by
  induction fuel with
  | zero =>
      constructor
      · intro input json rest read
        simp [value?] at read
      · intro input items rest read
        simp [items?] at read
  | succ fuel inductionHypothesis =>
      obtain ⟨values, items⟩ := inductionHypothesis
      exact ⟨takesPlain_succ items, takesPlainItems_succ values items⟩

/-- The text of a plain value is made of marks. -/
theorem isMark_of_parse
    {text : String}
    {json : Json}
    (parsed : parse? text = some json)
    (plain : Plain json) :
    ∀ character ∈ text.toList, isMark character = true := by
  unfold parse? at parsed
  obtain ⟨⟨value, rest⟩, read, ending⟩ := Option.bind_eq_some_iff.mp parsed
  dsimp only at ending
  split at ending
  · rename_i blank
    obtain rfl := Option.some.inj ending
    have whole := ((takesPlain _).1 _ _ _ read plain).trans (takes_skipBlanks rest)
    rw [List.isEmpty_iff.mp blank] at whole
    obtain ⟨taken, split, marks⟩ := whole
    rw [split, List.append_nil]
    exact marks
  · cases ending

end Json

namespace Bytes

theorem isMark_of_hexValue?
    {character : Char}
    {value : Nat}
    (read : hexValue? character = some value) :
    Json.isMark character = true := by
  rw [hexValue?] at read
  split at read
  · rename_i decimal
    exact Json.isMark_of_isDigit (by simpa [Char.isDigit, Char.le_def] using decimal)
  · split at read
    · rename_i lower
      simp [Json.isMark, lower]
    · split at read
      · rename_i upper
        simp [Json.isMark, upper]
      · cases read

theorem isMark_of_ofHexDigits?
    {characters : List Char}
    {bytes : Bytes}
    (read : ofHexDigits? characters = some bytes) :
    ∀ character ∈ characters, Json.isMark character = true := by
  fun_induction ofHexDigits? characters generalizing bytes with
  | case1 =>
      simp
  | case2 high low rest inductionHypothesis =>
      simp only [Option.bind_eq_bind, Option.bind_eq_some_iff] at read
      obtain ⟨_, highRead, _, lowRead, more, restRead, -⟩ := read
      have marks := inductionHypothesis restRead
      simp only [List.mem_cons]
      rintro character (rfl | rfl | member)
      · exact isMark_of_hexValue? highRead
      · exact isMark_of_hexValue? lowRead
      · exact marks character member
  | case3 =>
      cases read

theorem isMark_of_ofHex?
    {text : String}
    {bytes : Bytes}
    (read : ofHex? text = some bytes) :
    ∀ character ∈ text.toList, Json.isMark character = true := by
  have marks := isMark_of_ofHexDigits? read
  have zero : Json.isMark '0' = true ∧ Json.isMark 'x' = true ∧ Json.isMark 'X' = true := by decide
  generalize text.toList = characters at marks
  unfold dropHexMark at marks
  split at marks
  · simpa [zero] using marks
  · simpa [zero] using marks
  · exact marks

end Bytes

namespace TransportError

/-- A number that is written with digits alone is plain. -/
theorem plain_of_natBelow?
    {bound value : Nat}
    {json : Json}
    (read : json.natBelow? bound = some value) :
    json.Plain := by
  unfold Json.natBelow? at read
  split at read
  · rename_i text
    refine .number text ?_
    split at read
    · rename_i found decimal
      unfold Json.decimal? at decimal
      split at decimal
      · rename_i digits
        intro character member
        exact Json.isMark_of_isDigit (List.all_eq_true.mp digits.2 character member)
      · cases decimal
    · cases read
  · cases read

/-- JSON data that stands for bytes is plain. -/
theorem plain_of_bytesOfJson?
    {json : Json}
    {bytes : Bytes}
    (read : bytesOfJson? json = some bytes) :
    json.Plain := by
  unfold bytesOfJson? at read
  split at read
  · exact .string _ (Bytes.isMark_of_ofHex? read)
  · rename_i items
    refine .array items ?_
    induction items generalizing bytes with
    | nil =>
        simp
    | cons item rest inductionHypothesis =>
        simp only [List.mapM_cons, Option.bind_eq_bind, Option.bind_eq_some_iff] at read
        obtain ⟨byte, first, more, others, -⟩ := read
        obtain ⟨value, number, -⟩ := Option.map_eq_some_iff.mp first
        simpa using ⟨plain_of_natBelow? number, inductionHypothesis others⟩
  · cases read

/-- The data of an error answer that carries revert data has a text of marks. -/
theorem isMark_of_revertData?
    {code : Int}
    {message data : String}
    {bytes : Bytes}
    (carries : (response code message (some data)).revertData? = some bytes) :
    ∀ character ∈ data.toList, Json.isMark character = true := by
  obtain ⟨json, parsed, read⟩ := Option.bind_eq_some_iff.mp carries
  exact Json.isMark_of_parse parsed (plain_of_bytesOfJson? read)

end TransportError

end ContractGateway
