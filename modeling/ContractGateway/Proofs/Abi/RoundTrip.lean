import ContractGateway.Proofs.Abi.Layout
import ContractGateway.Proofs.Text.Utf8

/-!
# Encoded values are read back

A reader that stands before a value of the right shape reads that value, unless the value is nested
more deeply than the limit allows: `Abi.decodeValue_eq`. How deeply a value is nested is counted in
the levels that are opened for it, one inside the other.
-/

namespace ContractGateway

namespace AbiValue

mutual

/-- The levels that are opened, one inside the other, to read a value. -/
def levels : AbiValue → Nat
  | .bytes _ | .string _ | .array [] => 1
  | .array (first :: rest) => 2 + max first.levels (deepest rest)
  | .fixedArray items | .tuple items => 1 + deepest items
  | _ => 0

/-- The levels of the most deeply nested one of several values. -/
def deepest : List AbiValue → Nat
  | [] => 0
  | value :: rest => max value.levels (deepest rest)

end

mutual

/-- The number of items in the longest list of a value. -/
def longest : AbiValue → Nat
  | .array items | .fixedArray items | .tuple items => max items.length (longestOfAll items)
  | _ => 0

/-- The number of items in the longest list of several values. -/
def longestOfAll : List AbiValue → Nat
  | [] => 0
  | value :: rest => max value.longest (longestOfAll rest)

end

end AbiValue

namespace Abi

open AbiValue

section Limits

variable {α β : Type}

/-- A result that is only reached when the levels opened for it stay within the limit. -/
def limited (levels : Nat) (result : α) : Except DecodeError α :=
  if levels ≤ depthLimit then .ok result else .error .tooDeep

/-- What needs no level is reached. -/
theorem limited_zero (result : α) : limited 0 result = .ok result := rfl

/-- Steps in a row are limited by the one that needs the most levels. -/
theorem limited_bind
    {here whole : Nat}
    (behind : Nat)
    {first : α}
    {next : α → Except DecodeError β}
    {result : β}
    (continues : here ≤ depthLimit → next first = limited behind result)
    (together : whole = max here behind) :
    (limited here first >>= next) = limited whole result := by
  by_cases within : here ≤ depthLimit
  · have reached : limited here first = .ok first := if_pos within
    rw [reached]
    change next first = _
    rw [continues within, limited, limited]
    congr 1
    rw [together, Nat.max_le]
    simp [within]
  · have stopped : limited here first = .error .tooDeep := if_neg within
    have beyond : ¬ whole ≤ depthLimit := by omega
    rw [stopped, limited, if_neg beyond]
    rfl

end Limits

section Words

/-- A number within a word is read as it was written. -/
theorem toNat_word (number : Nat) : Bytes.toNat (word number) = number % 2 ^ 256 := by
  have window : (256 : Nat) ^ 32 = 2 ^ 256 := by decide
  rw [word, Bytes.toNat_ofNat, window]

theorem ofBytes_word (number : Nat) : Word.ofBytes (word number) = BitVec.ofNat 256 number := by
  apply BitVec.eq_of_toNat_eq
  rw [Word.ofBytes, toNat_word, BitVec.toNat_ofNat, BitVec.toNat_ofNat, Nat.mod_mod]

theorem ofBytes_flag (flag : Bool) :
    decide ((Word.ofBytes (word flag.toNat)).toNat ≠ 0) = flag := by
  rw [ofBytes_word]
  cases flag <;> rfl

/-- An address keeps the low bytes of its word. -/
theorem ofNat_word (account : Address) :
    BitVec.ofNat 160 (Word.ofBytes (word account.toNat)).toNat = account := by
  apply BitVec.eq_of_toNat_eq
  have small : account.toNat < 2 ^ 160 := account.isLt
  rw [ofBytes_word, BitVec.toNat_ofNat, BitVec.toNat_ofNat]
  omega

/-- A function keeps the high bytes of its word. -/
theorem ofNat_function (target : BitVec 192) :
    BitVec.ofNat 192
        ((Word.ofBytes (Bytes.ofNat 24 target.toNat ++ Bytes.zeros 8)).toNat / 2 ^ 64) =
      target := by
  apply BitVec.eq_of_toNat_eq
  have small : target.toNat < 2 ^ 192 := target.isLt
  have window : (256 : Nat) ^ 24 = 2 ^ 192 := by decide
  have byteCount : (256 : Nat) ^ 8 = 2 ^ 64 := by decide
  have blank : Bytes.toNat (Bytes.zeros 8) = 0 := by decide
  have whole :
      Bytes.toNat (Bytes.ofNat 24 target.toNat ++ Bytes.zeros 8) = target.toNat * 2 ^ 64 := by
    rw [Bytes.toNat_append, Bytes.toNat_ofNat, Bytes.length_zeros, window, byteCount, blank,
      Nat.mod_eq_of_lt small, Nat.add_zero]
  rw [Word.ofBytes, whole, BitVec.toNat_ofNat, BitVec.toNat_ofNat]
  omega

theorem length_le_counted (bytes : Bytes) : bytes.length ≤ (counted bytes).length := by
  simp only [counted, padded, List.length_append]
  omega

end Words

namespace Reader

variable {reader : Reader}

theorem word_eq
    {bytes more : Bytes}
    (here : reader.rest = bytes ++ more)
    (size : bytes.length = 32) :
    reader.word = .ok (Word.ofBytes bytes, { reader with rest := more }) := by
  have taken : reader.rest.take 32 = bytes := by
    rw [here]
    exact List.take_left' size
  have left : reader.rest.drop 32 = more := by
    rw [here]
    exact List.drop_left' size
  simp [word, taken, left, size]

/-- A number that was written as a word is counted as it was. -/
theorem count_eq
    {number : Nat}
    {more : Bytes}
    (here : reader.rest = Abi.word number ++ more)
    (small : number < 2 ^ 64) :
    reader.count = .ok (number, { reader with rest := more }) := by
  have value : (Word.ofBytes (Abi.word number)).toNat = number := by
    rw [ofBytes_word, BitVec.toNat_ofNat]
    omega
  rw [count, word_eq here (Bytes.length_ofNat 32 number)]
  change (if (Word.ofBytes (Abi.word number)).toNat < 2 ^ 64 then _ else _) = _
  rw [if_pos (value.symm ▸ small), value]
  rfl

theorem openLevel_eq (data : Bytes) :
    reader.openLevel data = limited (reader.depth + 1) (start data (reader.depth + 1)) := by
  rw [openLevel, limited]
  by_cases within : depthLimit ≤ reader.depth
  · rw [if_pos within, if_neg (by omega)]
  · rw [if_neg within, if_pos (by omega)]

/-- An offset leads to what lies there, one level further in. -/
theorem follow_eq
    {offset : Nat}
    {more : Bytes}
    (here : reader.rest = Abi.word offset ++ more)
    (small : offset < 2 ^ 64)
    (inside : offset ≤ reader.level.length) :
    reader.follow =
      limited (reader.depth + 1)
        (start (reader.level.drop offset) (reader.depth + 1), { reader with rest := more }) := by
  rw [follow, count_eq here small]
  change (reader.openLevel (reader.level.drop offset) >>= _) = _
  rw [openLevel_eq]
  refine limited_bind 0 (fun _ => ?_) (by omega)
  rw [if_neg (by omega), limited_zero]
  rfl

/-- A byte string behind its length is read whole. -/
theorem counted_eq
    {bytes extra : Bytes}
    (here : reader.rest = Abi.counted bytes ++ extra)
    (small : bytes.length < 2 ^ 64) :
    reader.counted = .ok bytes := by
  rw [Abi.counted, padded, List.append_assoc, List.append_assoc] at here
  rw [counted, count_eq here small]
  simp [pure, Except.pure, bind, Except.bind]

/-- A result that is read at a reader, at the cost of some levels below it. -/
def reads {α : Type} (reader : Reader) (levels : Nat) (result : α) (more : Bytes) :
    Except DecodeError (α × Reader) :=
  limited (reader.depth + levels) (result, { reader with rest := more })

theorem reads_nothing (shallow : reader.depth ≤ depthLimit) :
    reader.reads 0 ([] : List AbiValue) reader.rest = .ok ([], reader) :=
  if_pos shallow

/-- A first value and those behind it are read one after the other. -/
theorem reads_cons
    {here behind : Nat}
    {value : AbiValue}
    {values : List AbiValue}
    {next more : Bytes}
    {others : Reader → Except DecodeError (List AbiValue × Reader)}
    (continues :
      others { reader with rest := next } =
        ({ reader with rest := next } : Reader).reads behind values more) :
    (do
        let (item, reader) ← reader.reads here value next
        let (items, reader) ← others reader
        return (item :: items, reader)) =
      reader.reads (max here behind) (value :: values) more := by
  refine limited_bind (reader.depth + behind) (fun _ => ?_) (by omega)
  change (others _ >>= _) = _
  rw [continues]
  exact limited_bind 0 (fun _ => rfl) (by simp)

end Reader

section Pieces

variable {reader : Reader} {value : AbiValue} {more : Bytes}

/-- A value of one word is made from that word. -/
theorem decodeWord_eq
    {make : Word → AbiValue}
    (static : value.isDynamic = false)
    (flat : value.levels = 0)
    (size : (body value).length = 32)
    (makes : make (Word.ofBytes (body value)) = value)
    (shallow : reader.depth ≤ depthLimit)
    (before : reader.Before value more) :
    decodeWord make reader = reader.reads value.levels value more := by
  cases before with
  | behindOffset offset extra dynamic =>
      exact absurd dynamic (by simp [static])
  | inPlace _ here =>
      have reached : reader.depth + value.levels ≤ depthLimit := by omega
      rw [decodeWord, Reader.word_eq here size, Reader.reads, limited, if_pos reached]
      change Except.ok (make (Word.ofBytes (body value)), _) = _
      rw [makes]

/-- A byte string is read where its offset leads. -/
theorem decodeBytes_eq
    {make : Bytes → AbiValue}
    {bytes : Bytes}
    (dynamic : value.isDynamic = true)
    (single : value.levels = 1)
    (holds : body value = counted bytes)
    (small : bytes.length < 2 ^ 64)
    (makes : make bytes = value)
    (before : reader.Before value more) :
    decodeBytes make reader = reader.reads value.levels value more := by
  cases before with
  | inPlace static =>
      exact absurd dynamic (by simp [static])
  | behindOffset offset extra _ here offsetSmall inside there =>
      rw [decodeBytes, Reader.follow_eq here offsetSmall inside, Reader.reads]
      refine limited_bind 0 (fun _ => ?_) (by omega)
      have text : (Reader.start (reader.level.drop offset) (reader.depth + 1)).counted =
          .ok bytes :=
        Reader.counted_eq (holds ▸ there) small
      change (Reader.counted _ >>= _) = _
      rw [text, limited_zero, ← makes]
      rfl

/-- A sequence is read as its values are, on a level of its own. -/
theorem decodeLevel_eq
    {values : List AbiValue}
    {contents : Reader → Except DecodeError (List AbiValue × Reader)}
    (sequence : body value = assemble (parts values))
    (alike : value.isDynamic = anyDynamic values)
    (small : (assemble (parts values)).length < 2 ^ 64)
    (inside :
      ∀ (inner : Reader) (behind : Bytes),
        inner.depth ≤ depthLimit →
        inner.BeforeAll values behind →
        contents inner = inner.reads (deepest values) values behind)
    (before : reader.Before value more) :
    decodeLevel (anyDynamic values) contents reader =
      reader.reads (1 + deepest values) values more := by
  rw [decodeLevel, Reader.reads]
  cases before with
  | inPlace static here =>
      obtain ⟨behind, beforeAll, ends⟩ :=
        Reader.beforeAll_start small more (reader.depth + 1)
      rw [← alike, if_neg (by simp [static]), Reader.openLevel_eq, here, sequence]
      refine limited_bind (reader.depth + 1 + deepest values) (fun within => ?_) (by omega)
      rw [inside _ behind within beforeAll, ends (alike ▸ static)]
      exact limited_bind 0 (fun _ => rfl) (by simp [Reader.start])
  | behindOffset offset extra dynamic here offsetSmall within there =>
      obtain ⟨behind, beforeAll, -⟩ :=
        Reader.beforeAll_start small extra (reader.depth + 1)
      rw [← alike, if_pos dynamic, Reader.follow_eq here offsetSmall within, there, sequence]
      refine limited_bind (reader.depth + 1 + deepest values) (fun within => ?_) (by omega)
      change (contents _ >>= _) = _
      rw [inside _ behind within beforeAll]
      exact limited_bind 0 (fun _ => rfl) (by simp [Reader.start])

/-- An array is read behind its length, on a level of its own inside the one its offset opens. -/
theorem decodeArray_eq
    {items : List AbiValue}
    {item : AbiType}
    (room : items.length * (32 * item.leastWords) ≤ (assemble (parts items)).length)
    (small : (assemble (parts items)).length < 2 ^ 64)
    (countable : items.length < 2 ^ 64)
    (inside :
      ∀ (inner : Reader) (behind : Bytes),
        inner.depth ≤ depthLimit →
        inner.BeforeAll items behind →
        decodeTimes (decodeValue item) items.length inner =
          inner.reads (deepest items) items behind)
    (before : reader.Before (.array items) more) :
    decodeValue (.array item) reader =
      reader.reads (AbiValue.array items).levels (.array items) more := by
  cases before with
  | inPlace static =>
      exact absurd static (by simp [isDynamic])
  | behindOffset offset extra _ here offsetSmall within there =>
      rw [body, List.append_assoc] at there
      have counts :
          (Reader.start (reader.level.drop offset) (reader.depth + 1)).count =
            .ok (items.length, ⟨reader.level.drop offset, assemble (parts items) ++ extra,
              reader.depth + 1⟩) :=
        Reader.count_eq there countable
      rw [decodeValue, Reader.follow_eq here offsetSmall within, Reader.reads]
      cases items with
      | nil =>
          refine limited_bind 0 (fun _ => ?_) (by simp [levels])
          change (Reader.count _ >>= _) = _
          rw [counts]
          rfl
      | cons first rest =>
          have nested : (AbiValue.array (first :: rest)).levels = 2 + deepest (first :: rest) := rfl
          refine limited_bind (reader.depth + 2 + deepest (first :: rest)) (fun _ => ?_) (by omega)
          obtain ⟨behind, beforeAll, -⟩ := Reader.beforeAll_start small extra (reader.depth + 2)
          have enough :
              ¬ (Reader.start (assemble (parts (first :: rest)) ++ extra)
                    (reader.depth + 2)).wordsLeft <
                  (first :: rest).length * item.leastWords := by
            rw [Nat.mul_left_comm] at room
            simp only [Reader.wordsLeft, Reader.start, List.length_append]
            omega
          change (Reader.count _ >>= _) = _
          rw [counts]
          change (Reader.openLevel _ _ >>= _) = _
          rw [Reader.openLevel_eq]
          refine limited_bind (reader.depth + 2 + deepest (first :: rest)) (fun shallow => ?_)
            (by simp only; omega)
          rw [if_neg enough]
          change (decodeTimes _ _ _ >>= _) = _
          rw [inside _ behind shallow beforeAll]
          exact limited_bind 0 (fun _ => rfl) (by simp [Reader.start])

end Pieces

mutual

/-
By induction on the value. A reader of items has been opened one level below that of their list, so
what is known of the items is used below the level that the list itself needs.
-/

/-- A reader before a value reads that value, as far as the levels allow. -/
theorem decodeValue_eq
    (value : AbiValue)
    {type : AbiType}
    {reader : Reader}
    {more : Bytes}
    (fitting : value.fits type = true)
    (small : (body value).length < 2 ^ 64)
    (countable : value.longest < 2 ^ 64)
    (shallow : reader.depth ≤ depthLimit)
    (before : reader.Before value more) :
    decodeValue type reader = reader.reads value.levels value more := by
  match value with
  | .bool flag =>
      cases fitted_of_fits fitting
      exact decodeWord_eq rfl rfl (by simp [body, word]) (by rw [body, ofBytes_flag]) shallow before
  | .int word bits =>
      cases fitted_of_fits fitting
      exact decodeWord_eq rfl rfl (by simp [body]) (by simp [body]) shallow before
  | .uint word bits =>
      cases fitted_of_fits fitting
      exact decodeWord_eq rfl rfl (by simp [body]) (by simp [body]) shallow before
  | .fixedBytes word size =>
      cases fitted_of_fits fitting
      exact decodeWord_eq rfl rfl (by simp [body]) (by simp [body]) shallow before
  | .address account =>
      cases fitted_of_fits fitting
      exact decodeWord_eq rfl rfl (by simp [body, word]) (by rw [body, ofNat_word]) shallow before
  | .function target =>
      cases fitted_of_fits fitting
      exact decodeWord_eq rfl rfl (by simp [body]) (by rw [body, ofNat_function]) shallow before
  | .bytes content =>
      cases fitted_of_fits fitting
      have fewer := Nat.lt_of_le_of_lt (length_le_counted content) small
      exact decodeBytes_eq rfl rfl rfl fewer rfl before
  | .string text =>
      cases fitted_of_fits fitting
      have fewer := Nat.lt_of_le_of_lt (length_le_counted (Utf8.encode text)) small
      exact decodeBytes_eq rfl rfl rfl fewer (by rw [Utf8.repair_encode]) before
  | .array items =>
      cases fitted_of_fits fitting with
      | array _ item members =>
          have room := leastWords_le_of_allFit items members
          rw [body, List.length_append] at small
          rw [longest] at countable
          exact decodeArray_eq room (by omega) (by omega)
            (fun inner behind shallow beforeAll =>
              decodeTimes_eq items members (by omega) (by omega) shallow beforeAll)
            before
  | .fixedArray items =>
      cases fitted_of_fits fitting with
      | fixedArray _ item members =>
          have dynamic : (AbiType.fixedArray item items.length).isDynamic = anyDynamic items :=
            (isDynamic_eq (.fixedArray items) fitting).symm
          rw [longest] at countable
          have level :=
            decodeLevel_eq rfl rfl small
              (fun inner behind shallow beforeAll =>
                decodeTimes_eq items members small (by omega) shallow beforeAll)
              before
          rw [decodeValue, dynamic, level, Reader.reads]
          exact limited_bind 0 (fun _ => rfl) (by simp [levels])
  | .tuple items =>
      cases fitted_of_fits fitting with
      | tuple _ types members =>
          have dynamic : AbiType.anyDynamic types = anyDynamic items :=
            (anyDynamic_of_eachFits items members).symm
          rw [longest] at countable
          have level :=
            decodeLevel_eq rfl rfl small
              (fun inner behind shallow beforeAll =>
                decodeEach_eq items members small (by omega) shallow beforeAll)
              before
          rw [decodeValue, dynamic, level, Reader.reads]
          exact limited_bind 0 (fun _ => rfl) (by simp [levels])

/-- A reader before several values of one type reads them in turn. -/
theorem decodeTimes_eq
    (values : List AbiValue)
    {type : AbiType}
    {reader : Reader}
    {more : Bytes}
    (members : allFit values type = true)
    (small : (assemble (parts values)).length < 2 ^ 64)
    (countable : longestOfAll values < 2 ^ 64)
    (shallow : reader.depth ≤ depthLimit)
    (before : reader.BeforeAll values more) :
    decodeTimes (decodeValue type) values.length reader =
      reader.reads (deepest values) values more := by
  match values with
  | [] =>
      cases before
      exact (Reader.reads_nothing shallow).symm
  | value :: rest =>
      obtain ⟨first, others⟩ := allFit_cons members
      rw [length_assemble_parts_cons] at small
      rw [longestOfAll] at countable
      cases before with
      | cons _ _ _ next _ here behind =>
          rw [List.length_cons, decodeTimes,
            decodeValue_eq value first (by omega) (by omega) shallow here]
          exact Reader.reads_cons
            (decodeTimes_eq rest others (by omega) (by omega) shallow behind)

/-- A reader before several values of several types reads them in turn. -/
theorem decodeEach_eq
    (values : List AbiValue)
    {types : List AbiType}
    {reader : Reader}
    {more : Bytes}
    (members : eachFits values types = true)
    (small : (assemble (parts values)).length < 2 ^ 64)
    (countable : longestOfAll values < 2 ^ 64)
    (shallow : reader.depth ≤ depthLimit)
    (before : reader.BeforeAll values more) :
    decodeEach types reader = reader.reads (deepest values) values more := by
  match values with
  | [] =>
      rw [eachFits_nil members]
      cases before
      exact (Reader.reads_nothing shallow).symm
  | value :: rest =>
      obtain ⟨type, others, rfl, first, later⟩ := eachFits_cons members
      rw [length_assemble_parts_cons] at small
      rw [longestOfAll] at countable
      cases before with
      | cons _ _ _ next _ here behind =>
          rw [decodeEach, decodeValue_eq value first (by omega) (by omega) shallow here]
          exact Reader.reads_cons (decodeEach_eq rest later (by omega) (by omega) shallow behind)

end

end Abi

end ContractGateway
