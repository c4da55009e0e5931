import ContractGateway.Abi.Encoding

/-!
# ABI decoding

Reading is lenient about the values it meets: any nonzero word is true, addresses keep the low
twenty bytes, integers and fixed bytes keep their whole word, and broken UTF-8 is repaired. It
is exact about room: a read that leaves the data fails, and so does an offset or a length that
does not fit a machine word, or a nesting deeper than the limit.

`decodeStrict` is the reading of return data: it decodes, encodes the values again and accepts
them only when the same bytes come back.
-/

namespace ContractGateway.Abi

/-- Why data cannot be decoded. -/
inductive DecodeError where
  | unresolved (cause : AbiType.Unresolved)
  | overrun
  | badOffset (word : Word)
  | tooDeep
  | notEncodable (cause : EncodeError)
  | notCanonical (actual expected : Nat)
  /-- The decoder gives up on the type, and whoever called it gets no answer at all. -/
  | bottomless
  deriving Repr

/-- How many levels of nested data are read. -/
def depthLimit : Nat := 16

/-- The wording of a decoding failure. -/
def DecodeError.message : DecodeError → String
  | .unresolved cause => cause.message
  | .overrun => "ABI decoding failed: buffer overrun while deserializing"
  | .badOffset word =>
      "type check failed for \"offset (usize)\" with data: " ++
        String.ofList (Bytes.hexDigits word.toBytes)
  | .tooDeep =>
      "ABI decoding failed: recursion limit of " ++ toString depthLimit ++
        " exceeded during decoding"
  | .notEncodable cause => cause.message
  | .notCanonical actual expected =>
      "non-canonical return data (" ++ toString actual ++ " bytes, expected " ++
        toString expected ++ ")"
  | .bottomless => "panic"

/-- A place in the data: the level it belongs to, and what is left of that level. -/
structure Reader where
  level : Bytes
  rest : Bytes
  depth : Nat

namespace Reader

/-- A reader at the start of a level. -/
def start (data : Bytes) (depth : Nat) : Reader := ⟨data, data, depth⟩

/-- Reads one word. -/
def word (reader : Reader) : Except DecodeError (Word × Reader) :=
  let taken := reader.rest.take 32
  if taken.length = 32 then
    .ok (Word.ofBytes taken, { reader with rest := reader.rest.drop 32 })
  else .error .overrun

/-- Reads a word that counts bytes or items. -/
def count (reader : Reader) : Except DecodeError (Nat × Reader) := do
  let (value, next) ← reader.word
  if value.toNat < 2 ^ 64 then return (value.toNat, next) else throw (.badOffset value)

/-- Opens a level over some data. -/
def openLevel (reader : Reader) (data : Bytes) : Except DecodeError Reader :=
  if depthLimit ≤ reader.depth then .error .tooDeep
  else .ok (start data (reader.depth + 1))

/-- Reads an offset and opens the level it points to. -/
def follow (reader : Reader) : Except DecodeError (Reader × Reader) := do
  let (offset, next) ← reader.count
  let target ← reader.openLevel (reader.level.drop offset)
  if reader.level.length < offset then throw .overrun
  return (target, next)

/-- Reads a length and that many bytes, wherever the reader stands. -/
def counted (reader : Reader) : Except DecodeError Bytes := do
  let (length, next) ← reader.count
  let taken := next.rest.take length
  if taken.length = length then return taken else throw .overrun

/-- How many whole words are left. -/
def wordsLeft (reader : Reader) : Nat := reader.rest.length / 32

end Reader

/-- Runs a decoder a number of times. -/
def decodeTimes (decodeItem : Reader → Except DecodeError (AbiValue × Reader)) :
    (times : Nat) → Reader → Except DecodeError (List AbiValue × Reader)
  | 0, reader => .ok ([], reader)
  | times + 1, reader => do
      let (item, reader) ← decodeItem reader
      let (items, reader) ← decodeTimes decodeItem times reader
      return (item :: items, reader)

/-- Reads the contents of a level, static ones in place and dynamic ones behind an offset. -/
def decodeLevel
    (dynamic : Bool)
    (contents : Reader → Except DecodeError (List AbiValue × Reader))
    (reader : Reader) : Except DecodeError (List AbiValue × Reader) :=
  if dynamic then do
    let (target, next) ← reader.follow
    let (items, _) ← contents target
    return (items, next)
  else do
    let inner ← reader.openLevel reader.rest
    let (items, behind) ← contents inner
    return (items, { reader with rest := behind.rest })

/-- Reads a word and turns it into a value. -/
def decodeWord
    (make : Word → AbiValue)
    (reader : Reader) : Except DecodeError (AbiValue × Reader) := do
  let (value, next) ← reader.word
  return (make value, next)

/-- Reads a byte string behind an offset. -/
def decodeBytes
    (make : Bytes → AbiValue)
    (reader : Reader) : Except DecodeError (AbiValue × Reader) := do
  let (target, next) ← reader.follow
  let bytes ← target.counted
  return (make bytes, next)

mutual

/-- Reads one value of a type. -/
def decodeValue : AbiType → Reader → Except DecodeError (AbiValue × Reader)
  | .bool, reader => decodeWord (fun value => .bool (value.toNat ≠ 0)) reader
  | .int bits, reader => decodeWord (.int · bits) reader
  | .uint bits, reader => decodeWord (.uint · bits) reader
  | .fixedBytes size, reader => decodeWord (.fixedBytes · size) reader
  | .address, reader => decodeWord (fun value => .address (BitVec.ofNat 160 value.toNat)) reader
  | .function, reader =>
      decodeWord (fun value => .function (BitVec.ofNat 192 (value.toNat / 2 ^ 64))) reader
  | .bytes, reader => decodeBytes .bytes reader
  | .string, reader => decodeBytes (fun bytes => .string (Utf8.repair bytes)) reader
  | .array item, reader => do
      let (target, next) ← reader.follow
      let (length, target) ← target.count
      if length = 0 then return (.array [], next)
      let contents ← target.openLevel target.rest
      if contents.wordsLeft < length * item.leastWords then throw .overrun
      let (items, _) ← decodeTimes (decodeValue item) length contents
      return (.array items, next)
  | .fixedArray item length, reader => do
      let dynamic := (AbiType.fixedArray item length).isDynamic
      let (items, next) ← decodeLevel dynamic (decodeTimes (decodeValue item) length) reader
      return (.fixedArray items, next)
  | .tuple types, reader => do
      let dynamic := AbiType.anyDynamic types
      let (items, next) ← decodeLevel dynamic (decodeEach types) reader
      return (.tuple items, next)

/-- Reads one value of each type in turn. -/
def decodeEach : List AbiType → Reader → Except DecodeError (List AbiValue × Reader)
  | [], reader => .ok ([], reader)
  | type :: types, reader => do
      let (value, reader) ← decodeValue type reader
      let (values, reader) ← decodeEach types reader
      return (value :: values, reader)

end

/-- The only value of a void type. -/
def voidValue : AbiType → AbiValue
  | .array _ => .array []
  | .fixedArray _ _ => .fixedArray []
  | _ => .tuple []

/-- Reads one output of a method. A void type takes up nothing, unless it is bottomless. -/
def decodeOutput (type : AbiType) (reader : Reader) : Except DecodeError (AbiValue × Reader) :=
  if type.isVoid then
    if type.isBottomless then .error .bottomless else .ok (voidValue type, reader)
  else if reader.wordsLeft < type.leastWords then .error .overrun
  else decodeValue type reader

/-- Reads the outputs of a method in turn. -/
def decodeOutputs : List AbiType → Reader → Except DecodeError (List AbiValue × Reader)
  | [], reader => .ok ([], reader)
  | type :: types, reader => do
      let (value, reader) ← decodeOutput type reader
      let (values, reader) ← decodeOutputs types reader
      return (value :: values, reader)

/-- The values that data holds, whatever stands behind them. -/
def decode (types : List AbiType) (data : Bytes) : Except DecodeError (List AbiValue) :=
  (decodeOutputs types (.start data 0)).map (·.1)

/--
Reads the outputs of a method by their parameters; a parameter that names no type is noticed
when its turn comes.
-/
def decodeParameters : List Parameter → Reader → Except DecodeError (List AbiValue × Reader)
  | [], reader => .ok ([], reader)
  | parameter :: parameters, reader => do
      let type ← parameter.resolve.mapError .unresolved
      let (value, reader) ← decodeOutput type reader
      let (values, reader) ← decodeParameters parameters reader
      return (value :: values, reader)

/-- Accepts only data that the decoded values encode to. -/
def decodeStrict (parameters : List Parameter) (data : Bytes) :
    Except DecodeError (List AbiValue) := do
  let (values, _) ← decodeParameters parameters (.start data 0)
  let canonical ← (encodeFor parameters values).mapError .notEncodable
  if canonical = data then return values
  else throw (.notCanonical data.length canonical.length)

end ContractGateway.Abi
