import ContractGateway.Number.FixedPoint
import ContractGateway.Text.Quoted
import ContractGateway.Time

/-!
# Host units

Contracts hand out every number as a 256-bit word. A host unit says what such a word stands for
on the host: an integer of some width, a ratio with eighteen decimal places, a duration or a
timestamp in whole seconds, or an enumeration of one byte.

`fromWire` reads a word and `toWire` writes one. Neither ever cuts a value off: what has no
counterpart on the other side is an error.
-/

namespace ContractGateway

/-- Why a value has no counterpart on the other side. -/
inductive ConversionError where
  | overflow (unit : String) (value : String)
  | unknownVariant (kind : String) (value : Nat)
  deriving DecidableEq, Repr

/-- The wording of a conversion failure. -/
def ConversionError.message : ConversionError → String
  | .overflow unit value => "value " ++ value ++ " does not fit unit " ++ unit
  | .unknownVariant kind value => "unknown " ++ kind ++ " variant " ++ toString value

/-- The widths of unsigned integers on the host. -/
inductive UnsignedWidth where
  | u8
  | u16
  | u32
  | u64
  | u128
  | usize
  deriving DecidableEq, Repr

namespace UnsignedWidth

/-- The number of bits. -/
def bits : UnsignedWidth → Nat
  | .u8 => 8
  | .u16 => 16
  | .u32 => 32
  | .u64 => 64
  | .u128 => 128
  | .usize => 64

/-- The name of the width. -/
def name : UnsignedWidth → String
  | .u8 => "u8"
  | .u16 => "u16"
  | .u32 => "u32"
  | .u64 => "u64"
  | .u128 => "u128"
  | .usize => "usize"

end UnsignedWidth

/-- An enumeration carried as one byte: its name, and its variants with their indices. -/
structure WireEnum where
  name : String
  variants : List (String × Nat)
  indices_nodup : (variants.map (·.2)).Nodup
  indices_lt : ∀ variant ∈ variants, variant.2 < 256
  deriving DecidableEq, Repr

namespace WireEnum

/-- A declared variant, by its position. -/
abbrev Variant (declared : WireEnum) := Fin declared.variants.length

/-- The name of a variant. -/
def variantName (declared : WireEnum) (variant : declared.Variant) : String :=
  declared.variants[variant].1

/-- The index that stands for a variant. -/
def index (declared : WireEnum) (variant : declared.Variant) : Nat :=
  declared.variants[variant].2

/-- The variant that an index stands for. -/
def ofIndex? (declared : WireEnum) (index : Nat) : Option declared.Variant :=
  (List.finRange declared.variants.length).find? fun variant => declared.index variant = index

/-- The variant of a name. -/
def ofName? (declared : WireEnum) (name : String) : Option declared.Variant :=
  (List.finRange declared.variants.length).find? fun variant =>
    declared.variantName variant = name

end WireEnum

/-- What a word stands for on the host. -/
inductive HostUnit where
  | unsigned (width : UnsignedWidth)
  | i64
  | word
  | ratio
  | duration
  | timestamp
  | enumeration (declared : WireEnum)
  deriving DecidableEq, Repr

namespace HostUnit

/-- The host values of a unit. A 64-bit signed integer is the signed reading of its bits. -/
@[reducible] def Value : HostUnit → Type
  | .unsigned width => BitVec width.bits
  | .i64 => BitVec 64
  | .word => Word
  | .ratio => Binary64
  | .duration => Duration
  | .timestamp => Timestamp
  | .enumeration declared => declared.Variant

/-- The name of a unit in descriptions and errors. -/
def name : HostUnit → String
  | .unsigned width => width.name
  | .i64 => "i64"
  | .word => "uint256"
  | .ratio => "ratio"
  | .duration => "duration"
  | .timestamp => "timestamp"
  | .enumeration declared => declared.name

/-- Decimal places of a ratio. -/
def ratioDecimals : Nat := 18

/-- The error for a word outside the range of a unit. -/
def tooWide (unit : String) (raw : Word) : ConversionError :=
  .overflow unit (toString raw.toNat)

/-- The double that a word with some decimal places stands for. -/
def ratioFromWire (raw : Word) (decimals : Nat) : Except ConversionError Binary64 :=
  match FixedPoint.toBinary64? raw decimals with
  | some number => .ok number
  | none => .error (tooWide "ratio" raw)

/-- The word with some decimal places that stands for a double, as a reader of units has it. -/
def ratioToWire
    (reader : FixedPoint.UnitReader)
    (number : Binary64)
    (decimals : Nat) : Except ConversionError Word :=
  match FixedPoint.ofBinary64? reader number decimals with
  | some raw => .ok raw
  | none => .error (.overflow "ratio" number.toText)

/-- Whole seconds as a word; a rest below one second is refused. -/
def secondsToWire (unit : String) (seconds nanos : Nat) : Except ConversionError Word :=
  if nanos = 0 then .ok (BitVec.ofNat 256 seconds)
  else .error (.overflow unit (Duration.spanText seconds nanos))

/-- The host value that a word stands for. -/
def fromWire : (unit : HostUnit) → Word → Except ConversionError unit.Value
  | .unsigned width, raw =>
      if raw.toNat < 2 ^ width.bits then .ok (BitVec.ofNat width.bits raw.toNat)
      else .error (tooWide width.name raw)
  | .i64, raw =>
      if raw.toNat < 2 ^ 63 then .ok (BitVec.ofNat 64 raw.toNat) else .error (tooWide "i64" raw)
  | .word, raw => .ok raw
  | .ratio, raw => ratioFromWire raw ratioDecimals
  | .duration, raw =>
      match Duration.ofSeconds? raw.toNat with
      | some span => .ok span
      | none => .error (tooWide "duration" raw)
  | .timestamp, raw =>
      match Timestamp.ofSeconds? raw.toNat with
      | some moment => .ok moment
      | none => .error (tooWide "timestamp" raw)
  | .enumeration declared, raw =>
      if raw.toNat < 256 then
        match declared.ofIndex? raw.toNat with
        | some variant => .ok variant
        | none => .error (.unknownVariant declared.name raw.toNat)
      else .error (tooWide declared.name raw)

/-- The word that stands for a host value. -/
def toWire : (unit : HostUnit) → unit.Value → Except ConversionError Word
  | .unsigned _, value => .ok (BitVec.ofNat 256 value.toNat)
  | .i64, value =>
      if value.toInt < 0 then .error (.overflow "i64" (toString value.toInt))
      else .ok (BitVec.ofNat 256 value.toInt.toNat)
  | .word, value => .ok value
  | .ratio, value => ratioToWire FixedPoint.parseUnits? value ratioDecimals
  | .duration, value => secondsToWire "duration" value.seconds value.nanos
  | .timestamp, value =>
      if value.seconds < 0 then
        .error (.overflow "timestamp"
          (toString value.secondsBeforeEpoch ++ " seconds before epoch"))
      else secondsToWire "timestamp" value.seconds.toNat value.nanos
  | .enumeration declared, value => .ok (BitVec.ofNat 256 (declared.index value))

/-- The description of a word that is paired with its unit and not yet converted. -/
def describeRaw (unit : HostUnit) (raw : Word) : String :=
  Text.record "Parameter" [("unit", Text.quoted unit.name), ("raw", toString raw.toNat)]

end HostUnit

end ContractGateway
