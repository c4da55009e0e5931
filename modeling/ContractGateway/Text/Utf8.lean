import ContractGateway.Bytes

/-!
# UTF-8

Strings travel as UTF-8 bytes. `encode` writes a string. `pieces` cuts any byte string into
characters and broken pieces, where a broken piece is the longest run that starts a character
and cannot be finished; `decode?` accepts byte strings without broken pieces, and `repair`
puts the replacement character in the place of each one.
-/

namespace ContractGateway.Utf8

/-- The UTF-8 bytes of a string. -/
def encode (text : String) : Bytes := text.toList.flatMap String.utf8EncodeChar

/--
Where a reader stands: between characters, or inside one with the payload read so far, the
range its next byte must lie in, and the number of bytes that follow that byte.
-/
inductive Position where
  | between
  | inside (payload low high more : Nat)
  deriving DecidableEq, Repr

/-- The effect of a byte that stands where a character may start. -/
def opening (byte : Nat) : List (Option Char) × Position :=
  if byte ≤ 0x7F then ([some (Char.ofNat byte)], .between)
  else if 0xC2 ≤ byte ∧ byte ≤ 0xDF then ([], .inside (byte - 0xC0) 0x80 0xBF 0)
  else if byte = 0xE0 then ([], .inside 0 0xA0 0xBF 1)
  else if byte = 0xED then ([], .inside 0xD 0x80 0x9F 1)
  else if 0xE1 ≤ byte ∧ byte ≤ 0xEF then ([], .inside (byte - 0xE0) 0x80 0xBF 1)
  else if byte = 0xF0 then ([], .inside 0 0x90 0xBF 2)
  else if 0xF1 ≤ byte ∧ byte ≤ 0xF3 then ([], .inside (byte - 0xF0) 0x80 0xBF 2)
  else if byte = 0xF4 then ([], .inside 4 0x80 0x8F 2)
  else ([none], .between)

/--
The effect of one byte. A byte that cannot continue a started character leaves a broken piece
behind and is read again as an opening byte.
-/
def step : Position → Nat → List (Option Char) × Position
  | .between, byte => opening byte
  | .inside payload low high more, byte =>
      if low ≤ byte ∧ byte ≤ high then
        let payload := payload * 64 + (byte - 0x80)
        match more with
        | 0 => ([some (Char.ofNat payload)], .between)
        | more + 1 => ([], .inside payload 0x80 0xBF more)
      else
        let (found, position) := opening byte
        (none :: found, position)

/-- The characters of a byte string in order, with `none` for each broken piece. -/
def piecesFrom : Position → Bytes → List (Option Char)
  | .between, [] => []
  | .inside .., [] => [none]
  | position, byte :: rest =>
      let (found, next) := step position byte.toNat
      found ++ piecesFrom next rest

/-- The characters and broken pieces of a whole byte string. -/
def pieces (bytes : Bytes) : List (Option Char) := piecesFrom .between bytes

/-- The string that a byte string encodes, when it is well formed. -/
def decode? (bytes : Bytes) : Option String :=
  ((pieces bytes).mapM id).map String.ofList

/-- The string a byte string reads as once every broken piece is replaced by U+FFFD. -/
def repair (bytes : Bytes) : String :=
  String.ofList ((pieces bytes).map (·.getD '\uFFFD'))

end ContractGateway.Utf8
