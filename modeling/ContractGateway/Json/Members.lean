import ContractGateway.Json
import ContractGateway.Number.Binary64
import ContractGateway.Time
import ContractGateway.Word

/-!
# JSON forms of plain values

Large numbers stand in JSON as decimal text and small ones as numbers; either is read for the
other. Byte strings, addresses, words and the bits of doubles stand as hexadecimal text, and a
time as its seconds and nanoseconds. An optional member may be left out or null.

Whatever lacks its form is refused with a reason.
-/

namespace ContractGateway

/-- What is read from JSON, or why nothing can be read. -/
abbrev Decoded (α : Type) := Except String α

namespace Json

-- Reading

/-- A text. -/
def toText : Json → Decoded String
  | .string text => .ok text
  | _ => .error "not a text"

/-- A flag. -/
def toFlag : Json → Decoded Bool
  | .bool value => .ok value
  | _ => .error "not a flag"

/-- The characters of a number, which stands as a number or as text. -/
def toDigits : Json → Decoded (List Char)
  | .number text | .string text => .ok text.toList
  | _ => .error "not a number"

/-- A natural number. -/
def toNat (json : Json) : Decoded Nat := do
  match decimal? (← json.toDigits) with
  | some value => return value
  | none => throw "not a natural number"

/-- An integer. -/
def toInt (json : Json) : Decoded Int := do
  let (sign, digits) : Int × List Char :=
    match ← json.toDigits with
    | '-' :: digits => (-1, digits)
    | digits => (1, digits)
  match decimal? digits with
  | some value => return sign * value
  | none => throw "not an integer"

/-- Bytes in hexadecimal. -/
def toBytes (json : Json) : Decoded Bytes := do
  match Bytes.ofHex? (← json.toText) with
  | some bytes => return bytes
  | none => throw "not hexadecimal"

/-- An address. -/
def toAddress (json : Json) : Decoded Address := return Address.ofBytes (← json.toBytes)

/-- A word written as a number. -/
def toWord (json : Json) : Decoded Word := return BitVec.ofNat 256 (← json.toNat)

/-- A word written as bytes. -/
def toHash (json : Json) : Decoded Hash := return Word.ofBytes (← json.toBytes)

/-- A double written as its bits. -/
def toDouble (json : Json) : Decoded Binary64 :=
  return ⟨BitVec.ofNat 64 (Bytes.toNat (← json.toBytes))⟩

/-- The items of an array, each in its form. -/
def toList {α : Type} (item : Json → Decoded α) : Json → Decoded (List α)
  | .array items => items.mapM item
  | _ => .error "not an array"

/-- Both items of an array of two. -/
def toPair {α β : Type} (first : Json → Decoded α) (second : Json → Decoded β) :
    Json → Decoded (α × β)
  | .array [left, right] => return (← first left, ← second right)
  | _ => .error "not a pair"

/-- One of several values, by its name. -/
def toNamed {α : Type} (name : α → String) (values : List α) (json : Json) : Decoded α := do
  let text ← json.toText
  match values.find? (name · = text) with
  | some value => return value
  | none => throw ("unknown name " ++ text)

/-- A member in its form. -/
def required {α : Type} (json : Json) (key : String) (form : Json → Decoded α) : Decoded α :=
  match json.field? key with
  | some value => form value
  | none => .error ("no member " ++ key)

/-- A member in its form, unless it is left out or null. -/
def optional {α : Type} (json : Json) (key : String) (form : Json → Decoded α) :
    Decoded (Option α) :=
  match json.fieldOrNull key with
  | .null => .ok none
  | value => (form value).map some

/-- A member in its form, unless it is left out; null clears what the member is about. -/
def clearing {α : Type} (json : Json) (key : String) (form : Json → Decoded α) :
    Decoded (Option (Option α)) :=
  match json.field? key with
  | none => .ok none
  | some .null => .ok (some none)
  | some value => (form value).map (some ∘ some)

/-- The text under a key. -/
def text (json : Json) (key : String) : Decoded String := json.required key toText

/-- The natural number under a key. -/
def nat (json : Json) (key : String) : Decoded Nat := json.required key toNat

/-- The flag under a key. -/
def flag (json : Json) (key : String) : Decoded Bool := json.required key toFlag

/-- The bytes under a key. -/
def bytes (json : Json) (key : String) : Decoded Bytes := json.required key toBytes

/-- The address under a key. -/
def address (json : Json) (key : String) : Decoded Address := json.required key toAddress

/-- The items under a key, each in its form. -/
def items {α : Type} (json : Json) (key : String) (item : Json → Decoded α) :
    Decoded (List α) :=
  json.required key (toList item)

/-- The items under a key, each in its form; none when the member is left out or null. -/
def itemsOrNone {α : Type} (json : Json) (key : String) (item : Json → Decoded α) :
    Decoded (List α) :=
  return (← json.optional key (toList item)).getD []

/-- A duration. -/
def toDuration (json : Json) : Decoded Duration := do
  let seconds ← json.nat "secs"
  let nanos ← json.nat "nanos"
  if fits : seconds < 2 ^ 64 ∧ nanos < 10 ^ 9 then return ⟨seconds, nanos, fits.1, fits.2⟩
  else throw "not a duration"

/-- A timestamp. -/
def toTimestamp (json : Json) : Decoded Timestamp := do
  let seconds ← json.required "secs" toInt
  let nanos ← json.nat "nanos"
  if fits : -2 ^ 63 ≤ seconds ∧ seconds < 2 ^ 63 ∧ nanos < 10 ^ 9 then
    return ⟨seconds, nanos, fits.1, fits.2.1, fits.2.2⟩
  else throw "not a timestamp"

-- Writing

/-- A large number. -/
def ofNat (value : Nat) : Json := .string (toString value)

/-- A large number with a sign. -/
def ofInt (value : Int) : Json := .string (toString value)

/-- A small number. -/
def ofCount (value : Nat) : Json := .number (toString value)

/-- Bytes in hexadecimal. -/
def ofBytes (bytes : Bytes) : Json := .string (Bytes.toHex bytes)

/-- An address. -/
def ofAddress (address : Address) : Json := .string (Address.toHex address)

/-- A word written as a number. -/
def ofWord (word : Word) : Json := ofNat word.toNat

/-- A word written as bytes. -/
def ofHash (word : Hash) : Json := .string (Word.toHex word)

/-- A double written as its bits. -/
def ofDouble (value : Binary64) : Json := ofBytes (Bytes.ofNat 8 value.bits.toNat)

/-- A duration. -/
def ofDuration (value : Duration) : Json :=
  .object [("secs", ofNat value.seconds), ("nanos", ofCount value.nanos)]

/-- A timestamp. -/
def ofTimestamp (value : Timestamp) : Json :=
  .object [("secs", ofInt value.seconds), ("nanos", ofCount value.nanos)]

/-- An array of items in their form. -/
def ofList {α : Type} (item : α → Json) (values : List α) : Json := .array (values.map item)

/-- A value in its form, or null. -/
def ofOption {α : Type} (form : α → Json) : Option α → Json
  | some value => form value
  | none => .null

/-- A value in its form, or the failure in its own. -/
def ofResult {ε α : Type} (failure : ε → Json) (form : α → Json) : Except ε α → Json
  | .ok value => form value
  | .error error => failure error

/-- A member for a value, and none for a value that is not there. -/
def whenSet {α : Type} (key : String) (form : α → Json) (value : Option α) :
    List (String × Json) :=
  (value.map fun value => (key, form value)).toList

end Json

end ContractGateway
