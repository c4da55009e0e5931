import ContractGateway.Proofs.Abi.Strict

/-!
# An encoding holds one list of values

Of all lists of values of given types, an encoding belongs to one: `Abi.encode_injective`. Whoever
reads it by these types gets this list or nothing, so no value is cut short in it. The bodies of two
values that begin alike are told apart from the front, without a limit on their nesting; what the
decoder itself gives within its limits is `Abi.decode_encode`.
-/

namespace ContractGateway

open Abi

namespace AbiValue

/-- Values whose encoding can be addressed: no list in them, and no place in it, is out of reach. -/
structure AddressableAll (values : List AbiValue) : Prop where
  countable : longestOfAll values < 2 ^ 64
  small : (encode values).length < 2 ^ 64

variable {value : AbiValue} {rest : List AbiValue}

theorem AddressableAll.head (whole : AddressableAll (value :: rest)) : value.Addressable := by
  obtain ⟨countable, small⟩ := whole
  rw [longestOfAll] at countable
  rw [encode, length_assemble_parts_cons] at small
  refine ⟨by omega, ?_⟩
  rw [encode, length_assemble_parts_cons]
  have empty : (assemble (parts [])).length = 0 := rfl
  omega

theorem AddressableAll.tail (whole : AddressableAll (value :: rest)) : AddressableAll rest := by
  obtain ⟨countable, small⟩ := whole
  rw [longestOfAll] at countable
  rw [encode, length_assemble_parts_cons] at small
  exact ⟨by omega, by rw [encode]; omega⟩

theorem Addressable.body_small (addressable : value.Addressable) :
    (body value).length < 2 ^ 64 := by
  have small := addressable.small
  rw [encode_singleton, List.length_append] at small
  omega

/-- The items of a list can be addressed when the whole list can, and so can their number. -/
theorem Addressable.items
    {items : List AbiValue}
    (addressable : value.Addressable)
    (lists : value = .array items ∨ value = .fixedArray items ∨ value = .tuple items) :
    AddressableAll items ∧ items.length < 2 ^ 64 := by
  have countable := addressable.countable
  have small := addressable.body_small
  have inside : longestOfAll items < 2 ^ 64 ∧ items.length < 2 ^ 64 := by
    rcases lists with rfl | rfl | rfl <;>
    · rw [longest] at countable
      omega
  refine ⟨⟨inside.1, ?_⟩, inside.2⟩
  rw [encode]
  rcases lists with rfl | rfl | rfl
  · rw [body, List.length_append] at small
    omega
  · exact small
  · exact small

/-- Values that all fit one type fit it one by one. -/
theorem eachFits_replicate
    {values : List AbiValue}
    {type : AbiType}
    (members : allFit values type = true) :
    eachFits values (List.replicate values.length type) = true := by
  induction values with
  | nil =>
      rfl
  | cons value rest inductionHypothesis =>
      obtain ⟨first, others⟩ := allFit_cons members
      exact Bool.and_eq_true_iff.mpr ⟨first, inductionHypothesis others⟩

end AbiValue

open AbiValue

namespace Abi

section Bodies

variable {more rest : Bytes}

/-- Numbers that are written alike are the same. -/
theorem word_append_inj
    {number other : Nat}
    (small : number < 2 ^ 64)
    (otherSmall : other < 2 ^ 64)
    (same : word number ++ more = word other ++ rest) :
    other = number ∧ rest = more := by
  obtain ⟨heads, behind⟩ := List.append_inj same (by simp [word])
  have numbers := congrArg Bytes.toNat heads
  rw [toNat_word, toNat_word] at numbers
  exact ⟨by omega, behind.symm⟩

/-- Byte strings that are written alike are the same. -/
theorem counted_append_inj
    {bytes other : Bytes}
    (small : bytes.length < 2 ^ 64)
    (otherSmall : other.length < 2 ^ 64)
    (same : counted bytes ++ more = counted other ++ rest) :
    other = bytes := by
  rw [counted, counted, List.append_assoc, List.append_assoc] at same
  obtain ⟨lengths, contents⟩ := word_append_inj small otherSmall same
  rw [padded, padded, List.append_assoc, List.append_assoc] at contents
  exact (List.append_inj contents lengths).1

/-- Values that are made from one word are the same when they are written alike. -/
theorem eq_of_made
    (make : Word → AbiValue)
    {value other : AbiValue}
    (makes : make (Word.ofBytes (body value)) = value)
    (makesOther : make (Word.ofBytes (body other)) = other)
    (size : (body value).length = 32)
    (otherSize : (body other).length = 32)
    (same : body value ++ more = body other ++ rest) :
    other = value ∧ (value.isDynamic = false → rest = more) := by
  obtain ⟨heads, behind⟩ := List.append_inj same (size.trans otherSize.symm)
  exact ⟨by rw [← makes, ← makesOther, heads], fun _ => behind.symm⟩

/--
Sequences that begin alike hold the same values, and static ones end alike, if no reader stands
before two such lists.
-/
theorem eq_of_assemble
    {values others : List AbiValue}
    (tells :
      ∀ {reader : Reader} {more rest : Bytes},
        reader.BeforeAll values more → reader.BeforeAll others rest →
          others = values ∧ rest = more)
    (addressable : AddressableAll values)
    (otherAddressable : AddressableAll others)
    (same : assemble (parts values) ++ more = assemble (parts others) ++ rest) :
    others = values ∧ (anyDynamic values = false → rest = more) := by
  obtain ⟨_, before, ends⟩ := Reader.beforeAll_start addressable.small more 0
  obtain ⟨_, otherBefore, otherEnds⟩ := Reader.beforeAll_start otherAddressable.small rest 0
  rw [← same] at otherBefore
  obtain ⟨rfl, rfl⟩ := tells before otherBefore
  exact ⟨rfl, fun static => (otherEnds static).symm.trans (ends static)⟩

end Bodies

/-- A reader stands before one value only when values of its type are told apart. -/
theorem Reader.Before.eq_of
    {reader : Reader}
    {value other : AbiValue}
    {more rest : Bytes}
    (alike : other.isDynamic = value.isDynamic)
    (tells :
      ∀ {more rest : Bytes},
        body value ++ more = body other ++ rest →
        other = value ∧ (value.isDynamic = false → rest = more))
    (before : reader.Before value more)
    (otherBefore : reader.Before other rest) :
    other = value ∧ rest = more := by
  cases before with
  | inPlace static here =>
      cases otherBefore with
      | behindOffset offset extra dynamic =>
          rw [alike, static] at dynamic
          cases dynamic
      | inPlace _ otherHere =>
          obtain ⟨same, behind⟩ := tells (here.symm.trans otherHere)
          exact ⟨same, behind static⟩
  | behindOffset offset extra dynamic here small inside there =>
      cases otherBefore with
      | inPlace static =>
          rw [alike, dynamic] at static
          cases static
      | behindOffset otherOffset otherExtra _ otherHere otherSmall _ otherThere =>
          obtain ⟨rfl, behind⟩ :=
            word_append_inj small otherSmall (here.symm.trans otherHere)
          exact ⟨(tells (there.symm.trans otherThere)).1, behind⟩

mutual

/-
By induction on the first value. Equal bodies give a reader that stands before the items of both
values, and such a reader stands before one list of items only.
-/

/-- Values of one type whose bodies begin alike are the same, and static ones end alike. -/
theorem eq_of_body
    (value : AbiValue)
    {other : AbiValue}
    {type : AbiType}
    {more rest : Bytes}
    (fitting : value.fits type = true)
    (otherFitting : other.fits type = true)
    (addressable : value.Addressable)
    (otherAddressable : other.Addressable)
    (same : body value ++ more = body other ++ rest) :
    other = value ∧ (value.isDynamic = false → rest = more) := by
  have small := addressable.body_small
  have otherSmall := otherAddressable.body_small
  match value with
  | .bool flag =>
      cases fitted_of_fits fitting
      cases fitted_of_fits otherFitting
      exact eq_of_made (fun word => .bool (word.toNat ≠ 0)) (by rw [body, ofBytes_flag])
        (by rw [body, ofBytes_flag]) (by simp [body, word]) (by simp [body, word]) same
  | .int word bits =>
      cases fitted_of_fits fitting
      cases fitted_of_fits otherFitting
      exact eq_of_made (.int · bits) (by simp [body]) (by simp [body]) (by simp [body])
        (by simp [body]) same
  | .uint word bits =>
      cases fitted_of_fits fitting
      cases fitted_of_fits otherFitting
      exact eq_of_made (.uint · bits) (by simp [body]) (by simp [body]) (by simp [body])
        (by simp [body]) same
  | .fixedBytes word size =>
      cases fitted_of_fits fitting
      cases fitted_of_fits otherFitting
      exact eq_of_made (.fixedBytes · size) (by simp [body]) (by simp [body])
        (by simp [body]) (by simp [body]) same
  | .address account =>
      cases fitted_of_fits fitting
      cases fitted_of_fits otherFitting
      exact eq_of_made (fun word => .address (BitVec.ofNat 160 word.toNat))
        (by rw [body, ofNat_word]) (by rw [body, ofNat_word]) (by simp [body, word])
        (by simp [body, word]) same
  | .function target =>
      cases fitted_of_fits fitting
      cases fitted_of_fits otherFitting
      exact eq_of_made (fun word => .function (BitVec.ofNat 192 (word.toNat / 2 ^ 64)))
        (by rw [body, ofNat_function]) (by rw [body, ofNat_function]) (by simp [body])
        (by simp [body]) same
  | .bytes content =>
      cases fitted_of_fits fitting
      cases fitted_of_fits otherFitting with
      | bytes otherContent =>
          have alike :=
            counted_append_inj (Nat.lt_of_le_of_lt (length_le_counted content) small)
              (Nat.lt_of_le_of_lt (length_le_counted otherContent) otherSmall) same
          exact ⟨by rw [alike], by rintro ⟨⟩⟩
  | .string text =>
      cases fitted_of_fits fitting
      cases fitted_of_fits otherFitting with
      | string otherText =>
          have alike :=
            counted_append_inj (Nat.lt_of_le_of_lt (length_le_counted (Utf8.encode text)) small)
              (Nat.lt_of_le_of_lt (length_le_counted (Utf8.encode otherText)) otherSmall) same
          refine ⟨?_, by rintro ⟨⟩⟩
          -- Bytes that a text was written as are read as that text again.
          rw [← Utf8.repair_encode otherText, alike, Utf8.repair_encode]
  | .array items =>
      cases fitted_of_fits fitting with
      | array _ item members =>
          cases fitted_of_fits otherFitting with
          | array otherItems _ otherMembers =>
              obtain ⟨inside, countable⟩ := addressable.items (.inl rfl)
              obtain ⟨otherInside, otherCountable⟩ := otherAddressable.items (.inl rfl)
              rw [body, body, List.append_assoc, List.append_assoc] at same
              obtain ⟨lengths, contents⟩ := word_append_inj countable otherCountable same
              have others := eachFits_replicate otherMembers
              rw [lengths] at others
              obtain ⟨rfl, -⟩ :=
                eq_of_assemble
                  (eq_of_beforeAll items (eachFits_replicate members) others inside otherInside)
                  inside otherInside contents.symm
              exact ⟨rfl, by rintro ⟨⟩⟩
  | .fixedArray items =>
      -- The type fixes the number of items, which is another term for each of the two values.
      generalize wanted : type = fixed at otherFitting
      cases fitted_of_fits fitting with
      | fixedArray _ item members =>
          cases fitted_of_fits otherFitting with
          | fixedArray otherItems _ otherMembers =>
              obtain ⟨rfl, lengths⟩ := AbiType.fixedArray.inj wanted
              have inside := (addressable.items (.inr (.inl rfl))).1
              have otherInside := (otherAddressable.items (.inr (.inl rfl))).1
              have others := eachFits_replicate otherMembers
              rw [← lengths] at others
              obtain ⟨rfl, ends⟩ :=
                eq_of_assemble
                  (eq_of_beforeAll items (eachFits_replicate members) others inside otherInside)
                  inside otherInside same
              exact ⟨rfl, ends⟩
          | _ => cases wanted
  | .tuple items =>
      cases fitted_of_fits fitting with
      | tuple _ types members =>
          cases fitted_of_fits otherFitting with
          | tuple otherItems _ otherMembers =>
              have inside := (addressable.items (.inr (.inr rfl))).1
              have otherInside := (otherAddressable.items (.inr (.inr rfl))).1
              obtain ⟨rfl, ends⟩ :=
                eq_of_assemble (eq_of_beforeAll items members otherMembers inside otherInside)
                  inside otherInside same
              exact ⟨rfl, ends⟩

/-- A reader stands before one list of values of given types only. -/
theorem eq_of_beforeAll
    (values : List AbiValue)
    {others : List AbiValue}
    {types : List AbiType}
    {reader : Reader}
    {more rest : Bytes}
    (members : eachFits values types = true)
    (otherMembers : eachFits others types = true)
    (addressable : AddressableAll values)
    (otherAddressable : AddressableAll others)
    (before : reader.BeforeAll values more)
    (otherBefore : reader.BeforeAll others rest) :
    others = values ∧ rest = more := by
  match values with
  | [] =>
      obtain rfl := eachFits_nil members
      cases others with
      | nil =>
          cases before
          cases otherBefore
          exact ⟨rfl, rfl⟩
      | cons other others =>
          cases otherMembers
  | value :: values =>
      obtain ⟨type, types, rfl, first, later⟩ := eachFits_cons members
      cases others with
      | nil => cases otherMembers
      | cons other others =>
          obtain ⟨otherFirst, otherLater⟩ := Bool.and_eq_true_iff.mp otherMembers
          cases before with
          | cons _ _ _ next _ here behind =>
              cases otherBefore with
              | cons _ _ _ otherNext _ otherHere otherBehind =>
                  have alike : other.isDynamic = value.isDynamic :=
                    (isDynamic_eq other otherFirst).trans (isDynamic_eq value first).symm
                  obtain ⟨rfl, rfl⟩ :=
                    here.eq_of alike
                      (eq_of_body value first otherFirst addressable.head otherAddressable.head)
                      otherHere
                  obtain ⟨rfl, rfl⟩ :=
                    eq_of_beforeAll values later otherLater addressable.tail otherAddressable.tail
                      behind otherBehind
                  exact ⟨rfl, rfl⟩

end

/-- Lists of values of the same types are the same when they have the same encoding. -/
theorem encode_injective
    {values others : List AbiValue}
    {types : List AbiType}
    (members : eachFits values types = true)
    (otherMembers : eachFits others types = true)
    (addressable : AddressableAll values)
    (otherCountable : longestOfAll others < 2 ^ 64)
    (same : encode others = encode values) :
    others = values := by
  have otherAddressable : AddressableAll others := ⟨otherCountable, same ▸ addressable.small⟩
  have bodies : assemble (parts values) ++ [] = assemble (parts others) ++ [] := by
    rw [List.append_nil, List.append_nil]
    exact same.symm
  exact
    (eq_of_assemble (eq_of_beforeAll values members otherMembers addressable otherAddressable)
      addressable otherAddressable bodies).1

end Abi

namespace Abi

/-- Within the limit of the decoder, the outputs of a method are read in turn. -/
theorem decodeOutputs_eq_ok
    {values : List AbiValue}
    {types : List AbiType}
    {reader : Reader}
    {more : Bytes}
    (members : eachFits values types = true)
    (occupied : ∀ type ∈ types, type.isVoid = false)
    (addressable : AddressableAll values)
    (room : roomOfAll (parts values) ≤ reader.rest.length)
    (within : reader.depth + deepest values ≤ depthLimit)
    (before : reader.BeforeAll values more) :
    decodeOutputs types reader = .ok (values, { reader with rest := more }) := by
  induction values generalizing types reader with
  | nil =>
      rw [eachFits_nil members]
      cases before
      rfl
  | cons value rest inductionHypothesis =>
      obtain ⟨type, types, rfl, first, later⟩ := eachFits_cons members
      obtain ⟨filled, filledLater⟩ := List.forall_mem_cons.mp occupied
      rw [deepest] at within
      simp only [parts, roomOfAll, Part.room] at room
      cases before with
      | cons _ _ _ next _ here behind =>
          have left : roomOfAll (parts rest) ≤ next.length := by
            cases here with
            | inPlace static here =>
                rw [here, static, List.length_append] at room
                simpa using room
            | behindOffset offset extra dynamic here =>
                rw [here, dynamic, List.length_append] at room
                simp only [word, Bytes.length_ofNat, if_true] at room
                omega
          have output :
              decodeOutput type reader = .ok (value, { reader with rest := next }) := by
            have least := leastWords_le value first
            -- The check for enough words passes, because the values take up as many.
            have enough : ¬ reader.wordsLeft < type.leastWords := by
              rw [Reader.wordsLeft]
              omega
            have head := addressable.head
            rw [decodeOutput, if_neg (by simp [filled]), if_neg enough,
              decodeValue_eq value first head.body_small head.countable (by omega) here]
            exact if_pos (by omega)
          have others :=
            inductionHypothesis later filledLater addressable.tail left
              (by simp only; omega) behind
          rw [decodeOutputs, output]
          change (decodeOutputs types _ >>= _) = _
          rw [others]
          rfl

/-- Within the limit of the decoder, values are decoded from their encoding. -/
theorem decode_encode
    {values : List AbiValue}
    {types : List AbiType}
    (members : eachFits values types = true)
    (occupied : ∀ type ∈ types, type.isVoid = false)
    (addressable : AddressableAll values)
    (within : deepest values ≤ depthLimit) :
    decode types (encode values) = .ok values := by
  obtain ⟨more, before, -⟩ := Reader.beforeAll_start addressable.small [] 0
  rw [List.append_nil] at before
  have room : roomOfAll (parts values) ≤ (Reader.start (encode values) 0).rest.length :=
    Nat.le_of_eq (length_assemble (parts values)).symm
  have shallow : (Reader.start (encode values) 0).depth + deepest values ≤ depthLimit :=
    Nat.le_trans (Nat.le_of_eq (Nat.zero_add _)) within
  rw [decode, decodeOutputs_eq_ok members occupied addressable room shallow before]
  rfl

end Abi

end ContractGateway
