import ContractGateway.Text.Unprintable

/-!
# Quoted text

The form in which names and texts appear inside descriptions of values: between double quotes,
with quotes and backslashes behind a backslash, the usual letters for line ends, tabs and nul,
and every other unprintable character as its code point in braces.
-/

namespace ContractGateway.Text

/-- The lower-case hexadecimal digits of a number, without leading zeros. -/
def hexOfNat (value : Nat) : List Char := Nat.toDigits 16 value

/-- One character as it stands inside quotes. -/
def quotedCharacter (character : Char) : List Char :=
  if character = '"' then ['\\', '"']
  else if character = '\\' then ['\\', '\\']
  else if character = '\n' then ['\\', 'n']
  else if character = '\r' then ['\\', 'r']
  else if character = '\t' then ['\\', 't']
  else if character = '\x00' then ['\\', '0']
  else if isUnprintable character then
    ['\\', 'u', '\x7b'] ++ hexOfNat character.toNat ++ ['\x7d']
  else [character]

/-- A text between double quotes. -/
def quoted (text : String) : String :=
  String.ofList ('"' :: text.toList.flatMap quotedCharacter ++ ['"'])

/-- Items between square brackets, separated by commas. -/
def bracketed (items : List String) : String :=
  "[" ++ ", ".intercalate items ++ "]"

/-- An optional description. -/
def optional : Option String → String
  | none => "None"
  | some text => "Some(" ++ text ++ ")"

/-- A record description: its name and its fields, each with a description. -/
def record (name : String) (fields : List (String × String)) : String :=
  name ++ " \x7b " ++ ", ".intercalate (fields.map fun (field, value) => field ++ ": " ++ value)
    ++ " \x7d"

end ContractGateway.Text
