import ContractGateway.Proofs.Number.Rounding
import ContractGateway.Proofs.Slot.RoundTrip

/-!
# What words and host values stand for

Every host value stands for a number: integers for themselves, enumerated ones for their index, and
spans and moments for their seconds, with the nanoseconds behind the point. A word and a host value
are converted into one another when they stand for the same number, in either direction, and
refused otherwise: `HostUnit.conversions_exact`. Ratios round and are left out.

`Refuses` lists the words without a host value, with the error of each, and `Wordless` the host
values without a word.
-/

namespace ContractGateway

namespace WireEnum

/-- Only an index that is not declared stands for no variant. -/
theorem ofIndex?_eq_none_iff
    {declared : WireEnum}
    {index : Nat} :
    declared.ofIndex? index = none ↔ ∀ variant, declared.index variant ≠ index := by
  simp [ofIndex?]

theorem index_of_ofIndex?
    {declared : WireEnum}
    {index : Nat}
    {variant : declared.Variant}
    (found : declared.ofIndex? index = some variant) :
    declared.index variant = index := by
  simpa using List.find?_some found

end WireEnum

namespace HostUnit

/-- The number that a host value stands for. -/
def quantity : (unit : HostUnit) → unit.Value → ℚ
  | .unsigned _, value => value.toNat
  | .i64, value => value.toInt
  | .word, value => value.toNat
  | .ratio, value => if value.isNegative then -value.magnitude else value.magnitude
  | .duration, value => value.seconds + value.nanos / 10 ^ 9
  | .timestamp, value => value.seconds + value.nanos / 10 ^ 9
  | .enumeration declared, value => declared.index value

/--
How many words the integer behind a unit can hold. The seconds of a moment are held with a sign, and
an index takes up one byte.
-/
def carried : HostUnit → Nat
  | .unsigned width => 2 ^ width.bits
  | .i64 => 2 ^ 63
  | .word | .ratio => 2 ^ 256
  | .duration => 2 ^ 64
  | .timestamp => 2 ^ 63
  | .enumeration _ => 2 ^ 8

/-- The words that stand for no host value, with the error that says so. -/
inductive Refuses : HostUnit → Word → ConversionError → Prop where
  /-- The word does not fit the integer behind the unit. -/
  | wide
      (unit : HostUnit)
      (raw : Word)
      (above : unit.carried ≤ raw.toNat) :
      Refuses unit raw (.overflow unit.name (toString raw.toNat))
  /-- The word is an index that no variant has. -/
  | undeclared
      (declared : WireEnum)
      (raw : Word)
      (small : raw.toNat < 2 ^ 8)
      (missing : ∀ variant, declared.index variant ≠ raw.toNat) :
      Refuses (.enumeration declared) raw (.unknownVariant declared.name raw.toNat)

/-- The host values that no word stands for. -/
inductive Wordless : (unit : HostUnit) → unit.Value → Prop where
  | negative
      (value : BitVec 64)
      (below : value.toInt < 0) :
      Wordless .i64 value
  | brokenSpan
      (value : Duration)
      (rest : value.nanos ≠ 0) :
      Wordless .duration value
  | brokenMoment
      (value : Timestamp)
      (rest : value.nanos ≠ 0) :
      Wordless .timestamp value
  | beforeEpoch
      (value : Timestamp)
      (before : value.seconds < 0) :
      Wordless .timestamp value

/-! ## Numbers with nanoseconds -/

/-- Seconds with less than another second behind them are a whole number when nothing is behind. -/
theorem seconds_eq_iff
    {seconds : Int}
    {nanos number : Nat}
    (small : nanos < 10 ^ 9) :
    (seconds : ℚ) + nanos / 10 ^ 9 = number ↔ nanos = 0 ∧ seconds = number := by
  have scaled :
      (seconds : ℚ) + nanos / 10 ^ 9 = number ↔ seconds * 10 ^ 9 + nanos = number * 10 ^ 9 := by
    rw [← mul_left_inj' (show (10 ^ 9 : ℚ) ≠ 0 by norm_num), add_mul,
      div_mul_cancel₀ _ (by norm_num)]
    exact_mod_cast Iff.rfl
  rw [scaled]
  omega

/-- Whole seconds are refused when there is a rest. -/
theorem secondsToWire_eq_error
    {unit : String}
    {seconds nanos : Nat}
    {error : ConversionError}
    (failed : secondsToWire unit seconds nanos = .error error) :
    nanos ≠ 0 ∧ error = .overflow unit (Duration.spanText seconds nanos) := by
  rw [secondsToWire] at failed
  split at failed
  · cases failed
  · rename_i rest
    exact ⟨rest, (Except.error.inj failed).symm⟩

/-! ## From words -/

/-- A word that is read stands for the same number as the host value. -/
theorem quantity_of_fromWire
    {unit : HostUnit}
    (exact : unit ≠ .ratio)
    {raw : Word}
    {value : unit.Value}
    (read : unit.fromWire raw = .ok value) :
    unit.quantity value = raw.toNat := by
  cases unit with
  | unsigned width =>
      rw [fromWire] at read
      split at read
      · rename_i small
        cases read
        rw [quantity, BitVec.toNat_ofNat, Nat.mod_eq_of_lt small]
      · cases read
  | i64 =>
      rw [fromWire] at read
      split at read
      · rename_i small
        cases read
        have number : (BitVec.ofNat 64 raw.toNat).toInt = raw.toNat := by
          rw [BitVec.toInt_ofNat', Int.bmod_eq_of_le] <;> omega
        rw [quantity, number, Int.cast_natCast]
      · cases read
  | word =>
      cases read
      rfl
  | ratio =>
      exact absurd rfl exact
  | duration =>
      rw [fromWire, Duration.ofSeconds?] at read
      by_cases small : raw.toNat < 2 ^ 64
      · rw [dif_pos small] at read
        cases read
        simp [quantity]
      · rw [dif_neg small] at read
        cases read
  | timestamp =>
      rw [fromWire, Timestamp.ofSeconds?] at read
      by_cases small : raw.toNat < 2 ^ 63
      · rw [dif_pos small] at read
        cases read
        simp [quantity]
      · rw [dif_neg small] at read
        cases read
  | enumeration declared =>
      rw [fromWire] at read
      split at read
      · split at read
        · rename_i found
          cases read
          rw [quantity, WireEnum.index_of_ofIndex? found]
        · cases read
      · cases read

/-- A word that the integer behind a unit cannot hold is refused with its number. -/
theorem fromWire_of_wide
    {unit : HostUnit}
    {raw : Word}
    (above : unit.carried ≤ raw.toNat) :
    unit.fromWire raw = .error (tooWide unit.name raw) := by
  have wide := Nat.not_lt.mpr above
  cases unit with
  | unsigned width | i64 | enumeration declared =>
      rw [fromWire]
      exact if_neg wide
  | word | ratio =>
      exact absurd raw.isLt wide
  | duration =>
      rw [fromWire, Duration.ofSeconds?, dif_neg (show ¬ raw.toNat < 2 ^ 64 from wide)]
      rfl
  | timestamp =>
      rw [fromWire, Timestamp.ofSeconds?, dif_neg (show ¬ raw.toNat < 2 ^ 63 from wide)]
      rfl

/-- An index is read as its variant, if it has one. -/
theorem fromWire_enumeration
    (declared : WireEnum)
    {raw : Word}
    (small : raw.toNat < 2 ^ 8) :
    (enumeration declared).fromWire raw =
      match declared.ofIndex? raw.toNat with
      | some variant => .ok variant
      | none => .error (.unknownVariant declared.name raw.toNat) := by
  rw [fromWire]
  exact if_pos small

/-- A word that the integer behind a unit can hold is read, indices aside. -/
theorem exists_fromWire
    {unit : HostUnit}
    (plain : ∀ declared, unit ≠ .enumeration declared)
    {raw : Word}
    (small : raw.toNat < unit.carried) :
    ∃ value, unit.fromWire raw = .ok value := by
  cases unit with
  | unsigned width | i64 =>
      rw [fromWire]
      exact ⟨_, if_pos small⟩
  | word | ratio =>
      exact ⟨_, rfl⟩
  | duration =>
      rw [fromWire, Duration.ofSeconds?, dif_pos (show raw.toNat < 2 ^ 64 from small)]
      exact ⟨_, rfl⟩
  | timestamp =>
      rw [fromWire, Timestamp.ofSeconds?, dif_pos (show raw.toNat < 2 ^ 63 from small)]
      exact ⟨_, rfl⟩
  | enumeration declared =>
      exact absurd rfl (plain declared)

/-- What a word is refused with. -/
theorem fromWire_eq_error_iff
    {unit : HostUnit}
    {raw : Word}
    {error : ConversionError} :
    unit.fromWire raw = .error error ↔ unit.Refuses raw error := by
  constructor
  · intro failed
    by_cases small : raw.toNat < unit.carried
    · cases unit with
      | enumeration declared =>
          rw [fromWire_enumeration declared small] at failed
          split at failed
          · cases failed
          · rename_i missing
            cases failed
            exact .undeclared declared raw small (WireEnum.ofIndex?_eq_none_iff.mp missing)
      | _ =>
          obtain ⟨value, read⟩ := exists_fromWire (by simp) small
          cases read.symm.trans failed
    · have above := Nat.le_of_not_lt small
      cases (fromWire_of_wide above).symm.trans failed
      exact .wide unit raw above
  · intro refuses
    cases refuses with
    | wide _ _ above =>
        exact fromWire_of_wide above
    | undeclared declared _ small missing =>
        rw [fromWire_enumeration declared small, WireEnum.ofIndex?_eq_none_iff.mpr missing]

/-! ## From host values -/

/-- A host value that stands for the same number as a word is written as that word. -/
theorem toWire_of_quantity
    {unit : HostUnit}
    (exact : unit ≠ .ratio)
    {raw : Word}
    {value : unit.Value}
    (same : unit.quantity value = raw.toNat) :
    unit.toWire value = .ok raw := by
  have word : BitVec.ofNat 256 raw.toNat = raw := by simp
  cases unit with
  | unsigned width =>
      have number : value.toNat = raw.toNat := Nat.cast_injective same
      rw [toWire, number, word]
  | i64 =>
      have number : value.toInt = raw.toNat := by
        rw [quantity] at same
        exact_mod_cast same
      rw [toWire, number, if_neg (by omega), Int.toNat_natCast, word]
  | word =>
      have number : value.toNat = raw.toNat := Nat.cast_injective same
      rw [toWire, BitVec.eq_of_toNat_eq number]
  | ratio =>
      exact absurd rfl exact
  | duration =>
      have seconds : ((value.seconds : Int) : ℚ) + value.nanos / 10 ^ 9 = raw.toNat := same
      obtain ⟨whole, number⟩ := (seconds_eq_iff value.nanos_lt).mp seconds
      rw [toWire, secondsToWire, if_pos whole, Nat.cast_injective number, word]
  | timestamp =>
      obtain ⟨whole, number⟩ := (seconds_eq_iff value.nanos_lt).mp same
      rw [toWire, number, if_neg (by omega), Int.toNat_natCast, secondsToWire, if_pos whole, word]
  | enumeration declared =>
      have number : declared.index value = raw.toNat := Nat.cast_injective same
      rw [toWire, number, word]

/-- A host value that stands for no word is refused under the name of its unit. -/
theorem toWire_eq_error
    {unit : HostUnit}
    (exact : unit ≠ .ratio)
    {value : unit.Value}
    {error : ConversionError}
    (failed : unit.toWire value = .error error) :
    unit.Wordless value ∧ ∃ text, error = .overflow unit.name text := by
  cases unit with
  | unsigned width | word | enumeration declared =>
      cases failed
  | ratio =>
      exact absurd rfl exact
  | i64 =>
      rw [toWire] at failed
      split at failed
      · rename_i below
        cases failed
        exact ⟨.negative value below, _, rfl⟩
      · cases failed
  | duration =>
      obtain ⟨rest, rfl⟩ := secondsToWire_eq_error failed
      exact ⟨.brokenSpan value rest, _, rfl⟩
  | timestamp =>
      rw [toWire] at failed
      split at failed
      · rename_i before
        cases failed
        exact ⟨.beforeEpoch value before, _, rfl⟩
      · obtain ⟨rest, rfl⟩ := secondsToWire_eq_error failed
        exact ⟨.brokenMoment value rest, _, rfl⟩

theorem toWire_of_wordless
    {unit : HostUnit}
    {value : unit.Value}
    (wordless : unit.Wordless value) :
    ∃ error, unit.toWire value = .error error := by
  cases wordless with
  | negative value below =>
      exact ⟨_, if_pos below⟩
  | brokenSpan value rest =>
      exact ⟨_, if_neg rest⟩
  | beforeEpoch value before =>
      exact ⟨_, if_pos before⟩
  | brokenMoment value rest =>
      rw [toWire]
      split
      · exact ⟨_, rfl⟩
      · exact ⟨_, if_neg rest⟩

/-! ## Both directions -/

/-- A word is read as the host value that stands for its number. -/
theorem fromWire_eq_ok_iff
    {unit : HostUnit}
    (exact : unit ≠ .ratio)
    {raw : Word}
    {value : unit.Value} :
    unit.fromWire raw = .ok value ↔ unit.quantity value = raw.toNat :=
  ⟨quantity_of_fromWire exact, fun same => fromWire_of_toWire exact (toWire_of_quantity exact same)⟩

/--
In every unit but ratios, a word is read as a host value exactly when that value is written as the
word, and exactly when both stand for the same number. A word is refused when no host value stands
for its number, because it is too wide or an index without a variant. A host value is refused when
it is negative, lies before the epoch or has a rest below one second.
-/
theorem conversions_exact
    {unit : HostUnit}
    (exact : unit ≠ .ratio) :
    (∀ raw value, unit.fromWire raw = .ok value ↔ unit.toWire value = .ok raw) ∧
      (∀ raw value, unit.fromWire raw = .ok value ↔ unit.quantity value = raw.toNat) ∧
      (∀ raw,
        (∃ error, unit.fromWire raw = .error error) ↔ ∀ value, unit.quantity value ≠ raw.toNat) ∧
      (∀ raw error, unit.fromWire raw = .error error ↔ unit.Refuses raw error) ∧
      (∀ value, (∃ error, unit.toWire value = .error error) ↔ unit.Wordless value) ∧
      ∀ value error, unit.toWire value = .error error →
        ∃ text, error = .overflow unit.name text := by
  refine ⟨fun raw value => ?_, fun raw value => fromWire_eq_ok_iff exact, fun raw => ?_,
    fun raw error => fromWire_eq_error_iff, fun value => ?_, fun value error failed => ?_⟩
  · constructor
    · exact fun read => toWire_of_quantity exact (quantity_of_fromWire exact read)
    · exact fromWire_of_toWire exact
  · constructor
    · rintro ⟨error, failed⟩ value same
      cases failed.symm.trans ((fromWire_eq_ok_iff exact).mpr same)
    · intro different
      cases read : unit.fromWire raw with
      | ok value => exact absurd (quantity_of_fromWire exact read) (different value)
      | error error => exact ⟨error, rfl⟩
  · constructor
    · rintro ⟨error, failed⟩
      exact (toWire_eq_error exact failed).1
    · exact toWire_of_wordless
  · exact (toWire_eq_error exact failed).2

/-- The last moment that there is has a word, and the word behind it no moment. -/
theorem conversions_exact_lastMoment :
    let last : Timestamp := ⟨2 ^ 63 - 1, 0, by decide, by decide, by decide⟩
    let word : Word := BitVec.ofNat 256 (2 ^ 63 - 1)
    HostUnit.timestamp ≠ .ratio ∧
      timestamp.toWire last = .ok word ∧
      timestamp.fromWire word = .ok last ∧
      timestamp.fromWire (BitVec.ofNat 256 (2 ^ 63)) =
        .error (.overflow "timestamp" "9223372036854775808") := by
  intro last word
  have exact : HostUnit.timestamp ≠ .ratio := by decide
  obtain ⟨inverse, -, -, refused, -⟩ := conversions_exact exact
  have written : timestamp.toWire last = .ok word := rfl
  have wide := Refuses.wide .timestamp (BitVec.ofNat 256 (2 ^ 63)) (by decide)
  exact ⟨exact, written, (inverse word last).mpr written, (refused _ _).mpr wide⟩

end HostUnit

end ContractGateway
