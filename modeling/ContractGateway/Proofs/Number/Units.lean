import ContractGateway.Number.FixedPoint
import ContractGateway.Proofs.Number.DecimalText

/-!
# Readers of units

What a reader of units does with the text of a number that is not negative, as laws of any reader:
it takes the point out, reads the digits, and multiplies by the power of ten that is left of the
places. From these laws `ReadsUnits.toText_eq` tells what a reader has for the text of a decimal.
The reader of the executable obeys them.
-/

namespace ContractGateway

namespace DecimalText

/-- A number with one more digit is ten times the number, and the digit. -/
theorem numberInBase?_concat_iff
    {front : List Char}
    {digit : Char}
    {number : Nat} :
    Rpc.numberInBase? 10 (front ++ [digit]) = some number ↔
      ∃ total value,
        Rpc.numberInBase? 10 front = some total ∧
          Bytes.hexValue? digit = some value ∧ value < 10 ∧ total * 10 + value = number := by
  rw [Rpc.numberInBase?, List.foldl_append, ← Rpc.numberInBase?]
  simp [Option.bind_eq_some_iff]

/-- Digits behind others count less by a power of ten for each of them. -/
theorem numberInBase?_append
    {front back : List Char}
    {high low : Nat}
    (highDigits : Rpc.numberInBase? 10 front = some high)
    (lowDigits : Rpc.numberInBase? 10 back = some low) :
    Rpc.numberInBase? 10 (front ++ back) = some (high * 10 ^ back.length + low) := by
  induction back using List.reverseRecOn generalizing low with
  | nil =>
      obtain rfl := Option.some.inj lowDigits
      simpa using highDigits
  | append_singleton back digit inductionHypothesis =>
      obtain ⟨total, value, before, read, small, rfl⟩ := numberInBase?_concat_iff.mp lowDigits
      rw [← List.append_assoc, numberInBase?_concat_iff]
      refine ⟨_, value, inductionHypothesis before, read, small, ?_⟩
      rw [List.length_append, List.length_singleton]
      ring

/-- A text that stands for a number has no point in it. -/
theorem ne_point_of_numberInBase?
    {characters : List Char}
    {number : Nat}
    (known : Rpc.numberInBase? 10 characters = some number) :
    ∀ character ∈ characters, decide (character ≠ '.') = true := by
  induction characters using List.reverseRecOn generalizing number with
  | nil => simp
  | append_singleton front digit inductionHypothesis =>
      obtain ⟨total, value, before, read, -⟩ := numberInBase?_concat_iff.mp known
      intro character member
      rcases List.mem_append.mp member with earlier | last
      · exact inductionHypothesis before character earlier
      · refine decide_eq_true fun point => ?_
        rw [← List.mem_singleton.mp last, point] at read
        cases read

end DecimalText

namespace FixedPoint

/--
What a reader of units does with the texts of numbers that are not negative. A reader is expected to
work with words throughout, and to notice when it leaves their range.
-/
structure ReadsUnits (reader : UnitReader) : Prop where
  /-- No word is a power of ten for more places. -/
  few : ∀ text decimals, maxDecimals < decimals → reader text decimals = none
  /-- Digits without places are read as their number, also behind zeros. -/
  digits :
    ∀ text number,
      Rpc.numberInBase? 10 text.toList = some number →
      reader text 0 = if number < 2 ^ 256 then some (BitVec.ofNat 256 number) else none
  /-- Places multiply the number of the digits by a power of ten. -/
  scaled :
    ∀ text number decimals (raw : Word),
      decimals ≤ maxDecimals →
      Rpc.numberInBase? 10 text.toList = some number →
      reader text 0 = some raw →
      raw.toNat * 10 ^ decimals < 2 ^ 256 →
      reader text decimals = some (BitVec.ofNat 256 (raw.toNat * 10 ^ decimals))
  /-- The product is checked: one beyond the largest word is refused, as are digits beyond it. -/
  checked :
    ∀ text number decimals,
      decimals ≤ maxDecimals →
      Rpc.numberInBase? 10 text.toList = some number →
      (∀ raw, reader text 0 = some raw → 2 ^ 256 ≤ raw.toNat * 10 ^ decimals) →
      reader text decimals = none
  /-- The point is taken out, and the digits behind it are that many places less. -/
  point :
    ∀ whole fraction decimals,
      (∀ character ∈ whole.toList ++ fraction.toList, character.isDigit = true) →
      fraction.length ≤ decimals →
      decimals ≤ maxDecimals →
      reader (whole ++ "." ++ fraction) decimals =
        reader (whole ++ fraction) (decimals - fraction.length)

/-- A text with a point in it is divided there. -/
theorem parts_of_point
    {whole : String}
    (plain : ∀ character ∈ whole.toList, decide (character ≠ '.') = true)
    (fraction : String) :
    wholePart (whole ++ "." ++ fraction) = whole.toList ∧
      fractionPart (whole ++ "." ++ fraction) = fraction.toList := by
  have text : (whole ++ "." ++ fraction).toList = whole.toList ++ '.' :: fraction.toList := by
    simp
  rw [wholePart, fractionPart, text, List.takeWhile_append_of_pos plain,
    List.dropWhile_append_of_pos plain]
  simp

/-- A text without a point is whole. -/
theorem parts_of_plain
    {text : String}
    (plain : ∀ character ∈ text.toList, decide (character ≠ '.') = true) :
    wholePart text = text.toList ∧ fractionPart text = [] := by
  rw [wholePart, fractionPart, List.takeWhile_eq_self_iff.mpr plain,
    List.dropWhile_eq_nil_iff.mpr plain]
  exact ⟨rfl, rfl⟩

namespace ReadsUnits

variable {reader : UnitReader}

/-- Digits are read as their number times the power of ten, or refused if that is no word. -/
theorem digits_eq
    (reads : ReadsUnits reader)
    {text : String}
    {number decimals : Nat}
    (known : Rpc.numberInBase? 10 text.toList = some number)
    (few : decimals ≤ maxDecimals) :
    reader text decimals =
      if number * 10 ^ decimals < 2 ^ 256 then some (BitVec.ofNat 256 (number * 10 ^ decimals))
      else none := by
  have alone := reads.digits text number known
  by_cases word : number < 2 ^ 256
  · rw [if_pos word] at alone
    have same : (BitVec.ofNat 256 number).toNat = number := by
      rw [BitVec.toNat_ofNat, Nat.mod_eq_of_lt word]
    split
    case isTrue fits =>
      have product := reads.scaled text number decimals _ few known alone (by rwa [same])
      rwa [same] at product
    case isFalse large =>
      refine reads.checked text number decimals few known fun raw read => ?_
      obtain rfl := Option.some.inj (alone.symm.trans read)
      rw [same]
      exact not_lt.mp large
  · rw [if_neg word] at alone
    have large : ¬ number * 10 ^ decimals < 2 ^ 256 := fun fits =>
      word (lt_of_le_of_lt (Nat.le_mul_of_pos_right number (by positivity)) fits)
    rw [if_neg large]
    refine reads.checked text number decimals few known fun raw read => ?_
    cases alone.symm.trans read

end ReadsUnits

end FixedPoint

namespace Decimal

open DecimalText FixedPoint

variable {decimal : Decimal}

/-- The digits behind the point of a decimal, as many as it has places. -/
def fractionDigits (decimal : Decimal) : List Char :=
  let rest := Nat.toDigits 10 (decimal.digits % 10 ^ decimal.places)
  List.replicate (decimal.places - rest.length) '0' ++ rest

theorem length_fractionDigits
    (some : 0 < decimal.places) :
    decimal.fractionDigits.length = decimal.places := by
  have fits : (Nat.toDigits 10 (decimal.digits % 10 ^ decimal.places)).length ≤ decimal.places :=
    (Nat.length_toDigits_le_iff (by decide) some).mpr (Nat.mod_lt _ (by simp))
  simp [fractionDigits, fits]

theorem isDigit_of_mem_fractionDigits
    {character : Char}
    (member : character ∈ decimal.fractionDigits) :
    character.isDigit = true := by
  rcases List.mem_append.mp member with zero | digit
  · rw [(List.mem_replicate.mp zero).2]
    rfl
  · exact isDigit_of_mem_toDigits digit

/-- The digits of a decimal around its point are those of one number. -/
theorem numberInBase?_parts
    (some : 0 < decimal.places) :
    Rpc.numberInBase? 10
        (Nat.toDigits 10 (decimal.digits / 10 ^ decimal.places) ++ decimal.fractionDigits) =
      .some decimal.digits := by
  have front := Rpc.numberInBase?_toDigits (show 1 < 10 by decide) (by decide)
    (decimal.digits / 10 ^ decimal.places)
  have back := Rpc.numberInBase?_toDigits (show 1 < 10 by decide) (by decide)
    (decimal.digits % 10 ^ decimal.places)
  rw [← numberInBase?_zeros (decimal.places -
    (Nat.toDigits 10 (decimal.digits % 10 ^ decimal.places)).length)] at back
  have both := numberInBase?_append front back
  change Rpc.numberInBase? 10 (_ ++ decimal.fractionDigits) =
    .some (_ * 10 ^ decimal.fractionDigits.length + _) at both
  rwa [length_fractionDigits some, Nat.div_add_mod'] at both

/-- A text with places is one around a point. -/
theorem toText_of_places
    (places : decimal.exponent < 0) :
    decimal.toText =
      String.ofList (Nat.toDigits 10 (decimal.digits / 10 ^ decimal.places)) ++ "." ++
        String.ofList decimal.fractionDigits := by
  refine String.toList_injective ?_
  rw [toList_toText_of_places places]
  simp [fractionDigits]

/-- Behind the point of a text there are as many digits as the decimal has places. -/
theorem length_fractionPart_toText (decimal : Decimal) :
    (fractionPart decimal.toText).length = decimal.places := by
  by_cases whole : 0 ≤ decimal.exponent
  · have none : decimal.places = 0 := by
      rw [places]
      omega
    have plain :
        ∀ character ∈ decimal.toText.toList, decide (character ≠ '.') = true := by
      rw [toList_toText_of_whole whole]
      exact fun _ member => ne_point_of_mem_toDigits member
    rw [(parts_of_plain plain).2, none, List.length_nil]
  · have some : 0 < decimal.places := by
      rw [places]
      omega
    have plain :
        ∀ character ∈
            (String.ofList (Nat.toDigits 10 (decimal.digits / 10 ^ decimal.places))).toList,
          decide (character ≠ '.') = true := by
      rw [String.toList_ofList]
      exact fun _ member => ne_point_of_mem_toDigits member
    rw [toText_of_places (not_le.mp whole), (parts_of_point plain _).2, String.toList_ofList,
      length_fractionDigits some]

/-- A decimal is scaled to units by the power of ten that is left of the places. -/
theorem scaled_of_places_le
    {decimals : Nat}
    (fits : decimal.places ≤ decimals) :
    decimal.scaled decimals = decimal.digits * 10 ^ (decimal.exponent + decimals).toNat := by
  have noDivision : (-(decimal.exponent + decimals)).toNat = 0 := by
    rw [places] at fits
    omega
  rw [scaled, noDivision, Nat.pow_zero, Nat.div_one]

end Decimal

namespace FixedPoint

open DecimalText

/-- What a reader of units has for the text of a decimal that has no more places than there are. -/
theorem ReadsUnits.toText_eq
    {reader : UnitReader}
    (reads : ReadsUnits reader)
    {decimal : Decimal}
    {decimals : Nat}
    (fits : decimal.places ≤ decimals)
    (few : decimals ≤ maxDecimals) :
    reader decimal.toText decimals =
      if decimal.scaled decimals < 2 ^ 256 then
        some (BitVec.ofNat 256 (decimal.scaled decimals))
      else none := by
  rw [Decimal.scaled_of_places_le fits]
  by_cases whole : 0 ≤ decimal.exponent
  · have known : Rpc.numberInBase? 10 decimal.toText.toList =
        some (decimal.digits * 10 ^ decimal.exponent.toNat) := by
      rw [Decimal.toList_toText_of_whole whole]
      exact Rpc.numberInBase?_toDigits (by decide) (by decide) _
    have power : (decimal.exponent + decimals).toNat = decimal.exponent.toNat + decimals := by
      omega
    rw [reads.digits_eq known few, power, Nat.pow_add, Nat.mul_assoc]
  · have positive : 0 < decimal.places := by
      rw [Decimal.places]
      omega
    have length := Decimal.length_fractionDigits positive
    have known : Rpc.numberInBase? 10
        (String.ofList (Nat.toDigits 10 (decimal.digits / 10 ^ decimal.places)) ++
          String.ofList decimal.fractionDigits).toList = some decimal.digits := by
      simpa using Decimal.numberInBase?_parts positive
    have power : (decimal.exponent + decimals).toNat = decimals - decimal.places := by
      rw [Decimal.places]
      omega
    rw [Decimal.toText_of_places (not_le.mp whole), reads.point _ _ _ ?_ ?_ few,
      String.length_ofList, length, reads.digits_eq known (Nat.sub_le_of_le_add (by omega)), power]
    · intro character member
      rw [String.toList_ofList, String.toList_ofList] at member
      rcases List.mem_append.mp member with front | back
      · exact isDigit_of_mem_toDigits front
      · exact Decimal.isDigit_of_mem_fractionDigits back
    · rw [String.length_ofList, length]
      exact fits

section Executable

variable {text : String} {number decimals : Nat}

theorem parseUnits?_of_numberInBase?
    (known : Rpc.numberInBase? 10 text.toList = some number)
    (few : decimals ≤ maxDecimals) :
    parseUnits? text decimals =
      if number * 10 ^ decimals < 2 ^ 256 then some (BitVec.ofNat 256 (number * 10 ^ decimals))
      else none := by
  obtain ⟨whole, fraction⟩ := parts_of_plain (ne_point_of_numberInBase? known)
  simp [parseUnits?, not_lt.mpr few, whole, fraction, known]

/-- A word of digits without places is their number. -/
theorem toNat_of_parseUnits?
    {raw : Word}
    (known : Rpc.numberInBase? 10 text.toList = some number)
    (read : parseUnits? text 0 = some raw) :
    raw.toNat = number := by
  rw [parseUnits?_of_numberInBase? known (Nat.zero_le _), Nat.pow_zero, Nat.mul_one] at read
  split at read
  case isTrue word => rw [← Option.some.inj read, BitVec.toNat_ofNat, Nat.mod_eq_of_lt word]
  case isFalse => cases read

/-- The reader of the executable is a reader of units. -/
theorem readsUnits_parseUnits? : ReadsUnits parseUnits? where
  few text decimals many := by simp [parseUnits?, many]
  digits text number known := by
    simpa using parseUnits?_of_numberInBase? known (Nat.zero_le maxDecimals)
  scaled text number decimals raw few known read fits := by
    rw [toNat_of_parseUnits? known read] at fits ⊢
    rw [parseUnits?_of_numberInBase? known few, if_pos fits]
  checked text number decimals few known large := by
    rw [parseUnits?_of_numberInBase? known few]
    refine if_neg fun fits => ?_
    have word : number * 10 ^ 0 < 2 ^ 256 :=
      lt_of_le_of_lt (Nat.mul_le_mul_left number (Nat.pow_le_pow_right (by decide)
        (Nat.zero_le decimals))) fits
    have alone := parseUnits?_of_numberInBase? known (Nat.zero_le maxDecimals)
    rw [if_pos word] at alone
    have beyond := large _ alone
    rw [toNat_of_parseUnits? known alone] at beyond
    omega
  point whole fraction decimals digits fits few := by
    have plain (characters : List Char)
        (digits : ∀ character ∈ characters, character.isDigit = true) :
        ∀ character ∈ characters, decide (character ≠ '.') = true := by
      intro character member
      refine decide_eq_true fun point => ?_
      have digit := digits character member
      rw [point] at digit
      exact absurd digit (by decide)
    obtain ⟨front, back⟩ := parts_of_point
      (plain _ fun character member => digits character (List.mem_append_left _ member)) fraction
    obtain ⟨all, none⟩ := @parts_of_plain (whole ++ fraction)
      (plain _ (by simpa using digits))
    have room : decimals - fraction.length ≤ maxDecimals := le_trans (Nat.sub_le _ _) few
    have length : fraction.toList.length = fraction.length := String.length_toList
    have short : fraction.toList.take decimals = fraction.toList :=
      List.take_of_length_le (length ▸ fits)
    simp [parseUnits?, not_lt.mpr few, not_lt.mpr room, front, back, all, none, short,
      length]

end Executable

end FixedPoint

end ContractGateway
