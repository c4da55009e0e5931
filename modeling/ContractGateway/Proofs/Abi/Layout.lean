import ContractGateway.Abi.Decoding

/-!
# Where encoded values lie

What an encoding says about the values in it without being read: which values fit a type, whether
they lie behind an offset, and how much room they take up. A reader that was opened over an
encoded sequence stands before its values in turn: `Reader.beforeAll_start`.
-/

namespace ContractGateway

namespace AbiValue

/-- The outermost constructors of a value and of a type that it fits. -/
inductive Fitted : AbiValue → AbiType → Prop where
  | bool (value : Bool) : Fitted (.bool value) .bool
  | int (value : Word) (bits : Nat) : Fitted (.int value bits) (.int bits)
  | uint (value : Word) (bits : Nat) : Fitted (.uint value bits) (.uint bits)
  | fixedBytes (word : Word) (size : Nat) : Fitted (.fixedBytes word size) (.fixedBytes size)
  | address (value : Address) : Fitted (.address value) .address
  | function (value : BitVec 192) : Fitted (.function value) .function
  | bytes (value : Bytes) : Fitted (.bytes value) .bytes
  | string (value : String) : Fitted (.string value) .string
  | array (items : List AbiValue) (item : AbiType)
      (members : allFit items item = true) :
      Fitted (.array items) (.array item)
  | fixedArray (items : List AbiValue) (item : AbiType)
      (members : allFit items item = true) :
      Fitted (.fixedArray items) (.fixedArray item items.length)
  | tuple (items : List AbiValue) (types : List AbiType)
      (members : eachFits items types = true) :
      Fitted (.tuple items) (.tuple types)

theorem fitted_of_fits
    {value : AbiValue}
    {type : AbiType}
    (fitting : value.fits type = true) :
    Fitted value type := by
  -- Only pairs of one outermost constructor are left after the first line.
  cases value <;> cases type <;> try cases fitting
  case bool.bool value => exact .bool value
  case address.address value => exact .address value
  case function.function value => exact .function value
  case bytes.bytes value => exact .bytes value
  case string.string value => exact .string value
  case int.int value bits width =>
      obtain rfl : bits = width := of_decide_eq_true fitting
      exact .int value bits
  case uint.uint value bits width =>
      obtain rfl : bits = width := of_decide_eq_true fitting
      exact .uint value bits
  case fixedBytes.fixedBytes word size width =>
      obtain rfl : size = width := of_decide_eq_true fitting
      exact .fixedBytes word size
  case array.array items item => exact .array items item fitting
  case fixedArray.fixedArray items item length =>
      obtain ⟨asMany, members⟩ := Bool.and_eq_true_iff.mp fitting
      obtain rfl : items.length = length := of_decide_eq_true asMany
      exact .fixedArray items item members
  case tuple.tuple items types => exact .tuple items types fitting

theorem allFit_cons
    {value : AbiValue}
    {rest : List AbiValue}
    {type : AbiType}
    (members : allFit (value :: rest) type = true) :
    value.fits type = true ∧ allFit rest type = true :=
  Bool.and_eq_true_iff.mp members

/-- Several values that fit several types are as many. -/
theorem eachFits_cons
    {value : AbiValue}
    {rest : List AbiValue}
    {types : List AbiType}
    (members : eachFits (value :: rest) types = true) :
    ∃ type others,
      types = type :: others ∧ value.fits type = true ∧ eachFits rest others = true := by
  cases types with
  | nil =>
      cases members
  | cons type others =>
      have both := Bool.and_eq_true_iff.mp members
      exact ⟨type, others, rfl, both.1, both.2⟩

theorem eachFits_nil
    {types : List AbiType}
    (members : eachFits [] types = true) :
    types = [] := by
  cases types with
  | nil => rfl
  | cons type others => cases members

mutual

/-- A value lies behind an offset exactly when its type says so. -/
theorem isDynamic_eq
    (value : AbiValue)
    {type : AbiType}
    (fitting : value.fits type = true) :
    value.isDynamic = type.isDynamic := by
  match value with
  | .fixedArray items =>
      cases fitted_of_fits fitting with
      | fixedArray _ item members =>
          have inside := anyDynamic_of_allFit items members
          simpa [isDynamic, AbiType.isDynamic] using inside
  | .tuple items =>
      cases fitted_of_fits fitting with
      | tuple _ types members => exact anyDynamic_of_eachFits items members
  | .array items => cases fitted_of_fits fitting; rfl
  | .bool _ | .int _ _ | .uint _ _ | .fixedBytes _ _ | .address _ | .function _ | .bytes _
  | .string _ => cases fitted_of_fits fitting; rfl

theorem anyDynamic_of_allFit
    (values : List AbiValue)
    {type : AbiType}
    (members : allFit values type = true) :
    anyDynamic values = (values.length ≠ 0 && type.isDynamic) := by
  match values with
  | [] => rfl
  | value :: rest =>
      obtain ⟨first, others⟩ := allFit_cons members
      have here := isDynamic_eq value first
      have behind := anyDynamic_of_allFit rest others
      cases dynamic : type.isDynamic <;> simp [anyDynamic, here, behind, dynamic]

theorem anyDynamic_of_eachFits
    (values : List AbiValue)
    {types : List AbiType}
    (members : eachFits values types = true) :
    anyDynamic values = AbiType.anyDynamic types := by
  match values with
  | [] =>
      rw [eachFits_nil members]
      rfl
  | value :: rest =>
      obtain ⟨type, others, rfl, first, later⟩ := eachFits_cons members
      have here := isDynamic_eq value first
      have behind := anyDynamic_of_eachFits rest later
      rw [anyDynamic, AbiType.anyDynamic, here, behind]

end

end AbiValue

namespace Abi

open AbiValue

section Room

/-- What a part takes up in a sequence: its body, and an offset for a dynamic one. -/
def Part.room (part : Part) : Nat := (if part.1 then 32 else 0) + part.2.length

/-- What several parts take up together. -/
def roomOfAll : List Part → Nat
  | [] => 0
  | part :: rest => part.room + roomOfAll rest

/-- The head part is as long as its offsets assume. -/
theorem length_heads
    (parts : List Part)
    (offset : Nat) :
    (layOut offset parts).1.length = headSize parts := by
  induction parts generalizing offset with
  | nil =>
      rfl
  | cons part rest inductionHypothesis =>
      obtain ⟨dynamic, body⟩ := part
      cases dynamic <;> simp [layOut, headSize, word, inductionHypothesis]

/-- Both parts together take up the same room wherever the tail part begins. -/
theorem length_layOut
    (parts : List Part)
    (offset : Nat) :
    (layOut offset parts).1.length + (layOut offset parts).2.length =
      roomOfAll parts := by
  induction parts generalizing offset with
  | nil =>
      rfl
  | cons part rest inductionHypothesis =>
      obtain ⟨dynamic, body⟩ := part
      cases dynamic with
      | true =>
          have behind := inductionHypothesis (offset + body.length)
          simp only [layOut, roomOfAll, Part.room, word, List.length_append, Bytes.length_ofNat,
            if_true]
          omega
      | false =>
          have behind := inductionHypothesis offset
          simp only [layOut, roomOfAll, Part.room, List.length_append, Bool.false_eq_true, if_false]
          omega

theorem length_assemble (parts : List Part) :
    (assemble parts).length = roomOfAll parts := by
  rw [assemble, List.length_append]
  exact length_layOut parts (headSize parts)

theorem length_assemble_parts_cons
    (value : AbiValue)
    (rest : List AbiValue) :
    (assemble (parts (value :: rest))).length =
      (if value.isDynamic then 32 else 0) + (body value).length +
        (assemble (parts rest)).length := by
  simp [length_assemble, parts, roomOfAll, Part.room]

/-- A value by itself stands behind an offset when it is dynamic. -/
theorem encode_singleton (value : AbiValue) :
    encode [value] = (if value.isDynamic then word 32 else []) ++ body value := by
  cases dynamic : value.isDynamic <;> simp [encode, assemble, parts, layOut, headSize, dynamic]

mutual

/-- A value takes up the least number of words of its type. -/
theorem leastWords_le
    (value : AbiValue)
    {type : AbiType}
    (fitting : value.fits type = true) :
    32 * type.leastWords ≤ (body value).length := by
  match value with
  | .array items =>
      cases fitted_of_fits fitting
      simp [AbiType.leastWords, body, word]
  | .fixedArray items =>
      cases fitted_of_fits fitting with
      | fixedArray _ item members =>
          have inside := leastWords_le_of_allFit items members
          simpa [AbiType.leastWords, body, Nat.mul_left_comm] using inside
  | .tuple items =>
      cases fitted_of_fits fitting with
      | tuple _ types members => exact leastWordsOfAll_le items members
  | .bytes _ | .string _ =>
      cases fitted_of_fits fitting
      simp only [AbiType.leastWords, body, counted, word, List.length_append, Bytes.length_ofNat]
      omega
  | .bool _ | .int _ _ | .uint _ _ | .fixedBytes _ _ | .address _ | .function _ =>
      cases fitted_of_fits fitting
      simp [AbiType.leastWords, body, word]

theorem leastWords_le_of_allFit
    (values : List AbiValue)
    {type : AbiType}
    (members : allFit values type = true) :
    values.length * (32 * type.leastWords) ≤ (assemble (parts values)).length := by
  match values with
  | [] => simp
  | value :: rest =>
      obtain ⟨first, others⟩ := allFit_cons members
      have here := leastWords_le value first
      have behind := leastWords_le_of_allFit rest others
      rw [length_assemble_parts_cons, List.length_cons, Nat.add_one_mul]
      omega

theorem leastWordsOfAll_le
    (values : List AbiValue)
    {types : List AbiType}
    (members : eachFits values types = true) :
    32 * AbiType.leastWordsOfAll types ≤ (assemble (parts values)).length := by
  match values with
  | [] =>
      rw [eachFits_nil members]
      exact Nat.zero_le _
  | value :: rest =>
      obtain ⟨type, others, rfl, first, later⟩ := eachFits_cons members
      have here := leastWords_le value first
      have behind := leastWordsOfAll_le rest later
      rw [length_assemble_parts_cons, AbiType.leastWordsOfAll]
      omega

end

end Room

namespace Reader

/-- The reader stands before a value, in place or at its offset, with more of the level behind. -/
inductive Before (reader : Reader) (value : AbiValue) (more : Bytes) : Prop where
  | inPlace
      (static : value.isDynamic = false)
      (here : reader.rest = body value ++ more)
  | behindOffset
      (offset : Nat)
      (extra : Bytes)
      (dynamic : value.isDynamic = true)
      (here : reader.rest = Abi.word offset ++ more)
      (small : offset < 2 ^ 64)
      (inside : offset ≤ reader.level.length)
      (there : reader.level.drop offset = body value ++ extra)

/-- The reader stands before several values in turn. -/
inductive BeforeAll : Reader → List AbiValue → Bytes → Prop where
  | nil (reader : Reader) : BeforeAll reader [] reader.rest
  | cons
      (reader : Reader)
      (value : AbiValue)
      (rest : List AbiValue)
      (next more : Bytes)
      (first : reader.Before value next)
      (others : BeforeAll { reader with rest := next } rest more) :
      BeforeAll reader (value :: rest) more

/-- The head part of a sequence stands before its values when the tail part is where it points. -/
theorem beforeAll_layOut
    {values : List AbiValue}
    {reader : Reader}
    (offset : Nat)
    {more extra : Bytes}
    (here : reader.rest = (layOut offset (parts values)).1 ++ more)
    (inside : offset ≤ reader.level.length)
    (there : reader.level.drop offset = (layOut offset (parts values)).2 ++ extra)
    (small : offset + (layOut offset (parts values)).2.length < 2 ^ 64) :
    reader.BeforeAll values more := by
  induction values generalizing reader offset with
  | nil =>
      have done : reader.rest = more := by simpa [parts, layOut] using here
      exact done ▸ .nil reader
  | cons value rest inductionHypothesis =>
      cases dynamic : value.isDynamic with
      | false =>
          simp only [parts, layOut, dynamic, List.append_assoc] at here there small
          exact .cons _ _ _ _ _ (.inPlace dynamic here)
            (inductionHypothesis offset rfl inside there small)
      | true =>
          simp only [parts, layOut, dynamic, List.append_assoc, List.length_append]
            at here there small
          have room : reader.level.length - offset =
              (body value).length +
                ((layOut (offset + (body value).length) (parts rest)).2.length + extra.length) := by
            simpa using congrArg List.length there
          have behind :
              reader.level.drop (offset + (body value).length) =
                (layOut (offset + (body value).length) (parts rest)).2 ++ extra := by
            rw [← List.drop_drop, there, List.drop_left]
          refine .cons _ _ _ _ _ (.behindOffset offset _ dynamic here (by omega) inside there) ?_
          have within : offset + (body value).length ≤ reader.level.length := by omega
          exact inductionHypothesis _ rfl within behind (by omega)

/-- Without dynamic parts there is no tail. -/
theorem tails_eq_nil
    {values : List AbiValue}
    (static : anyDynamic values = false)
    (offset : Nat) :
    (layOut offset (parts values)).2 = [] := by
  induction values generalizing offset with
  | nil =>
      rfl
  | cons value rest inductionHypothesis =>
      obtain ⟨here, behind⟩ := Bool.or_eq_false_iff.mp static
      simpa [parts, layOut, here] using inductionHypothesis behind offset

/--
A reader that is opened over a sequence stands before its values. Static ones leave off where the
sequence ends.
-/
theorem beforeAll_start
    {values : List AbiValue}
    (small : (assemble (parts values)).length < 2 ^ 64)
    (extra : Bytes)
    (depth : Nat) :
    ∃ more,
      (start (assemble (parts values) ++ extra) depth).BeforeAll values more ∧
        (anyDynamic values = false → more = extra) := by
  have size := length_layOut (parts values) (headSize (parts values))
  have heads := length_heads (parts values) (headSize (parts values))
  rw [length_assemble] at small
  refine ⟨(layOut (headSize (parts values)) (parts values)).2 ++ extra, ?_, fun static => ?_⟩
  · have whole :
        assemble (parts values) ++ extra =
          (layOut (headSize (parts values)) (parts values)).1 ++
            ((layOut (headSize (parts values)) (parts values)).2 ++ extra) := by
      rw [assemble, List.append_assoc]
    have inside : headSize (parts values) ≤ (assemble (parts values) ++ extra).length := by
      rw [whole, List.length_append]
      omega
    have there :
        (assemble (parts values) ++ extra).drop (headSize (parts values)) =
          (layOut (headSize (parts values)) (parts values)).2 ++ extra := by
      rw [whole]
      exact List.drop_left' heads
    exact beforeAll_layOut (headSize (parts values)) whole inside there (by omega)
  · rw [tails_eq_nil static, List.nil_append]

end Reader

end Abi

end ContractGateway
