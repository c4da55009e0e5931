import ContractGateway.Text.Quoted

/-!
# JSON data

Nodes answer in JSON. Numbers keep the text they were written with, and objects keep the order
of their fields. `Json.parse?` reads a whole text, and `Json.compact` writes a value without
blanks.
-/

namespace ContractGateway

/-- A JSON value. -/
inductive Json where
  | null
  | bool (value : Bool)
  | number (text : String)
  | string (text : String)
  | array (items : List Json)
  | object (fields : List (String × Json))
  deriving Repr, Inhabited

namespace Json

/-- The member of an object under a key, when there is one. -/
def field? (key : String) : Json → Option Json
  | .object fields => (fields.find? (·.1 = key)).map (·.2)
  | _ => none

/-- The member of an object under a key; a missing one reads as null. -/
def fieldOrNull (key : String) (json : Json) : Json := (json.field? key).getD .null

/-- A character as it stands inside a JSON string. -/
def escapedCharacter (character : Char) : List Char :=
  if character = '"' then ['\\', '"']
  else if character = '\\' then ['\\', '\\']
  else if character = '\n' then ['\\', 'n']
  else if character = '\r' then ['\\', 'r']
  else if character = '\t' then ['\\', 't']
  else if character = '\x08' then ['\\', 'b']
  else if character = '\x0c' then ['\\', 'f']
  else if character.toNat < 0x20 then
    let digits := Text.hexOfNat character.toNat
    ['\\', 'u'] ++ List.replicate (4 - digits.length) '0' ++ digits
  else [character]

/-- A JSON string with its quotes. -/
def quotedString (text : String) : String :=
  String.ofList ('"' :: text.toList.flatMap escapedCharacter ++ ['"'])

mutual

/-- The text of a value without blanks. -/
def compact : Json → String
  | .null => "null"
  | .bool value => if value then "true" else "false"
  | .number text => text
  | .string text => quotedString text
  | .array items => "[" ++ ",".intercalate (compactItems items) ++ "]"
  | .object fields => "\x7b" ++ ",".intercalate (compactFields fields) ++ "\x7d"

/-- The texts of several values. -/
def compactItems : List Json → List String
  | [] => []
  | item :: rest => item.compact :: compactItems rest

/-- The texts of several members of an object. -/
def compactFields : List (String × Json) → List String
  | [] => []
  | (key, value) :: rest => (quotedString key ++ ":" ++ value.compact) :: compactFields rest

end

/-- Drops the blanks in front. -/
def skipBlanks (input : List Char) : List Char :=
  input.dropWhile fun character =>
    character = ' ' || character = '\n' || character = '\r' || character = '\t'

/-- The value of four hexadecimal digits. -/
def hexQuad? : List Char → Option (Nat × List Char)
  | a :: b :: c :: d :: rest => do
      let digit (character : Char) : Option Nat :=
        if character.isDigit then some (character.toNat - 48)
        else if 'a' ≤ character ∧ character ≤ 'f' then some (character.toNat - 87)
        else if 'A' ≤ character ∧ character ≤ 'F' then some (character.toNat - 55)
        else none
      let a ← digit a
      let b ← digit b
      let c ← digit c
      let d ← digit d
      return (((a * 16 + b) * 16 + c) * 16 + d, rest)
  | _ => none

/-- The character behind `\u`, which takes two quads when it lies beyond the basic plane. -/
def unicodeEscape? (input : List Char) : Option (Char × List Char) := do
  let (high, rest) ← hexQuad? input
  if 0xD800 ≤ high ∧ high ≤ 0xDBFF then
    match rest with
    | '\\' :: 'u' :: rest =>
        let (low, rest) ← hexQuad? rest
        if 0xDC00 ≤ low ∧ low ≤ 0xDFFF then
          return (Char.ofNat (0x10000 + (high - 0xD800) * 0x400 + (low - 0xDC00)), rest)
        else none
    | _ => none
  else if 0xDC00 ≤ high ∧ high ≤ 0xDFFF then none
  else return (Char.ofNat high, rest)

/-- The contents of a string behind its opening quote, and what follows the closing one. -/
def stringBody? : (fuel : Nat) → List Char → List Char → Option (String × List Char)
  | 0, _, _ => none
  | _, _, [] => none
  | _ + 1, read, '"' :: rest => some (String.ofList read.reverse, rest)
  | fuel + 1, read, '\\' :: 'u' :: rest => do
      let (character, rest) ← unicodeEscape? rest
      stringBody? fuel (character :: read) rest
  | fuel + 1, read, '\\' :: mark :: rest => do
      let character ←
        match mark with
        | '"' => some '"'
        | '\\' => some '\\'
        | '/' => some '/'
        | 'b' => some '\x08'
        | 'f' => some '\x0c'
        | 'n' => some '\n'
        | 'r' => some '\r'
        | 't' => some '\t'
        | _ => none
      stringBody? fuel (character :: read) rest
  | fuel + 1, read, character :: rest =>
      if character.toNat < 0x20 ∨ character = '\\' then none
      else stringBody? fuel (character :: read) rest

/-- The digits in front, at least one. -/
def digits? (input : List Char) : Option (List Char × List Char) :=
  let found := input.takeWhile Char.isDigit
  if found.isEmpty then none else some (found, input.dropWhile Char.isDigit)

/-- The fraction of a number, when there is one. -/
def fraction? : List Char → Option (List Char × List Char)
  | '.' :: rest => (digits? rest).map fun (found, rest) => ('.' :: found, rest)
  | rest => some ([], rest)

/-- The exponent of a number, when there is one. -/
def exponent? : List Char → Option (List Char × List Char)
  | mark :: rest =>
      if mark = 'e' ∨ mark = 'E' then
        match rest with
        | '+' :: rest => (digits? rest).map fun (found, rest) => (mark :: '+' :: found, rest)
        | '-' :: rest => (digits? rest).map fun (found, rest) => (mark :: '-' :: found, rest)
        | rest => (digits? rest).map fun (found, rest) => (mark :: found, rest)
      else some ([], mark :: rest)
  | [] => some ([], [])

/-- A number; a leading zero stands alone. -/
def number? (input : List Char) : Option (String × List Char) := do
  let (sign, unsigned) :=
    match input with
    | '-' :: rest => (['-'], rest)
    | rest => ([], rest)
  let (whole, rest) ← digits? unsigned
  if whole.length > 1 ∧ whole.head? = some '0' then none
  let (fraction, rest) ← fraction? rest
  let (exponent, rest) ← exponent? rest
  return (String.ofList (sign ++ whole ++ fraction ++ exponent), rest)

mutual

/-- Reads one value. -/
def value? : (fuel : Nat) → List Char → Option (Json × List Char)
  | 0, _ => none
  | fuel + 1, input =>
      match skipBlanks input with
      | 'n' :: 'u' :: 'l' :: 'l' :: rest => some (.null, rest)
      | 't' :: 'r' :: 'u' :: 'e' :: rest => some (.bool true, rest)
      | 'f' :: 'a' :: 'l' :: 's' :: 'e' :: rest => some (.bool false, rest)
      | '"' :: rest => (stringBody? (rest.length + 1) [] rest).map fun (text, rest) =>
          (.string text, rest)
      | '[' :: rest =>
          match skipBlanks rest with
          | ']' :: rest => some (.array [], rest)
          | rest => (items? fuel rest).map fun (items, rest) => (.array items, rest)
      | '\x7b' :: rest =>
          match skipBlanks rest with
          | '\x7d' :: rest => some (.object [], rest)
          | rest => (fields? fuel rest).map fun (fields, rest) => (.object fields, rest)
      | rest => (number? rest).map fun (text, rest) => (.number text, rest)

/-- Reads the items of an array behind its opening bracket. -/
def items? : (fuel : Nat) → List Char → Option (List Json × List Char)
  | 0, _ => none
  | fuel + 1, input => do
      let (item, rest) ← value? fuel input
      match skipBlanks rest with
      | ',' :: rest =>
          let (items, rest) ← items? fuel rest
          return (item :: items, rest)
      | ']' :: rest => return ([item], rest)
      | _ => none

/-- Reads the members of an object behind its opening brace. -/
def fields? : (fuel : Nat) → List Char → Option (List (String × Json) × List Char)
  | 0, _ => none
  | fuel + 1, input =>
      match skipBlanks input with
      | '"' :: rest => do
          let (key, rest) ← stringBody? (rest.length + 1) [] rest
          match skipBlanks rest with
          | ':' :: rest =>
              let (value, rest) ← value? fuel rest
              match skipBlanks rest with
              | ',' :: rest =>
                  let (fields, rest) ← fields? fuel rest
                  return ((key, value) :: fields, rest)
              | '\x7d' :: rest => return ([(key, value)], rest)
              | _ => none
          | _ => none
      | _ => none

end

/-- Reads a text that holds one value and nothing else. -/
def parse? (text : String) : Option Json := do
  let characters := text.toList
  let (value, rest) ← value? (2 * characters.length + 2) characters
  if (skipBlanks rest).isEmpty then some value else none

/-- The number that decimal digits stand for, when there are nothing but digits. -/
def decimal? (characters : List Char) : Option Nat :=
  if characters ≠ [] ∧ characters.all Char.isDigit then
    some (characters.foldl (fun total digit => total * 10 + (digit.toNat - 48)) 0)
  else none

/-- A number below a bound, written with digits alone. -/
def natBelow? (bound : Nat) : Json → Option Nat
  | .number text =>
      match decimal? text.toList with
      | some value => if value < bound then some value else none
      | none => none
  | _ => none

end Json

end ContractGateway
