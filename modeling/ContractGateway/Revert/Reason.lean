import ContractGateway.Abi.Decoding
import ContractGateway.Text.Wording
import ContractGateway.Transport.Error

/-!
# Reasons of reverts

What a reverted call says about its cause. Revert data is tried as the two standard errors,
then by the parsers that are registered for the errors of contracts, and last as plain text. A
failed dry run falls back to the node's message when that is not blank. Which parsers there are is
up to the program that uses the gateway.
-/

namespace ContractGateway.Revert

/-- A registered parser: the text it has for revert data, if it knows the error they carry. -/
abbrev ErrorParser := (data : Bytes) → Option String

/-- The text of the first registered parser that has one. -/
def parsedError? (parsers : List ErrorParser) (data : Bytes) : Option String :=
  parsers.findSome? fun parser => parser data

/-- The selector of `Error(string)`. -/
def errorSelector : Bytes := [0x08, 0xC3, 0x79, 0xA0]

/-- The selector of `Panic(uint256)`. -/
def panicSelector : Bytes := [0x4E, 0x48, 0x7B, 0x71]

/-- Revert data that carries a text. -/
def errorData (reason : String) : Bytes := errorSelector ++ Abi.encode [.string reason]

/-- What a panic code means. -/
def panicMeaning : Nat → Option String
  | 0x00 => some "generic/unspecified error"
  | 0x01 => some "assertion failed"
  | 0x11 => some "arithmetic underflow or overflow"
  | 0x12 => some "division or modulo by zero"
  | 0x21 => some "failed to convert value into enum type"
  | 0x22 => some "storage byte array incorrectly encoded"
  | 0x31 => some "called `.pop()` on an empty array"
  | 0x32 => some "array out-of-bounds access"
  | 0x41 => some "memory allocation error"
  | 0x51 => some "called an invalid internal function"
  | _ => none

/-- The text of a panic: a known code with two digits at least, any other with the fewest. -/
def panicText (code : Nat) : String :=
  let digits := Text.hexOfNat code
  match panicMeaning code with
  | some meaning =>
      "panic: " ++ meaning ++ " (0x" ++
        String.ofList (List.replicate (2 - digits.length) '0' ++ digits) ++ ")"
  | none => "panic: unknown code (0x" ++ String.ofList digits ++ ")"

/-- The text that `Error(string)` data carries. -/
def errorText? (data : Bytes) : Option String :=
  if data.take 4 = errorSelector then
    match Abi.decode [.string] (data.drop 4) with
    | .ok [.string reason] => some reason
    | _ => none
  else none

/-- The code that `Panic(uint256)` data carries. -/
def panicCode? (data : Bytes) : Option Nat :=
  if data.take 4 = panicSelector then
    match Abi.decode [.uint 256] (data.drop 4) with
    | .ok [.uint code _] => some code.toNat
    | _ => none
  else none

/-- The reason that revert data gives. An empty text in `Error(string)` counts as none. -/
def reasonOfData? (parsers : List ErrorParser) (data : Bytes) : Option String :=
  if data.isEmpty then none
  else
    match errorText? data with
    | some reason => if reason.isEmpty then none else some reason
    | none =>
        match panicCode? data with
        | some code => some (panicText code)
        | none => parsedError? parsers data <|> Utf8.decode? data

/-- The reason of a reverted call in a batch. -/
def reasonOfCall (parsers : List ErrorParser) (data : Bytes) : String :=
  (reasonOfData? parsers data).getD "call reverted"

/-- What the node itself says about a failure. -/
def nodeMessage : TransportError → String
  | .response _ message _ => message
  | error => error.message

/-- The reason of a failed dry run: its revert data, else the node's message unless it is blank. -/
def reasonOfError (parsers : List ErrorParser) (error : TransportError) : String :=
  match error.revertData?.bind (reasonOfData? parsers) with
  | some reason => reason
  | none =>
      let message := nodeMessage error
      if Text.isBlank message then "execution reverted" else message

end ContractGateway.Revert
