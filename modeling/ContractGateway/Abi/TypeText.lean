import ContractGateway.Number.Power

/-!
# Type texts

How a type is written down: `uint256[2][]`, `(address,bool[])` or `Market.State`. A text is a name
or a list of types in parentheses, with array suffixes behind it. Blanks may stand inside the
parentheses, behind the opening one, behind a comma and before the closing one.

`TypeText.parse` takes a text apart. Where it cannot, the text is `Malformed`: the error holds the
place where reading stopped and what was wrong there, and its message points at that place.

Reading goes from left to right and never takes a choice back for a later one, but a suffix or an
item that is read in vain ends what stands before it, which may be complete by itself. Only a
missing delimiter and lists that nest too deep are final: they end the reading at once.
-/

namespace ContractGateway

/-- A type as it is written down. -/
inductive TypeText where
  | name (word : String)
  /-- A type that belongs to a contract: the two names with a dot between them. -/
  | member (contract word : String)
  | list (items : List TypeText)
  | array (item : TypeText) (length : Option Nat)
  deriving Repr

namespace TypeText

/-- What is wrong at the place where the reading of a text stopped. -/
inductive Fault where
  /-- No type begins here, or the text goes on behind its type. -/
  | unexpected
  | nestedTooDeep
  | missing (delimiter : Char)
  | lengthTooLarge
  | lengthZero
  deriving DecidableEq, Repr

namespace Fault

/-- Whether the fault ends the whole reading, whatever stands complete before it. -/
def isFinal : Fault → Bool
  | .nestedTooDeep | .missing _ => true
  | _ => false

/-- The wording of a fault. -/
def message : Fault → String
  | .unexpected | .nestedTooDeep => ""
  | .missing delimiter => "expected `" ++ delimiter.toString ++ "`"
  | .lengthTooLarge => "number too large to fit in target type"
  | .lengthZero => "number would be zero for non-zero type"

end Fault

/-- A text that is not the text of a type: how many characters were read, and what is wrong then. -/
structure Malformed where
  text : String
  offset : Nat
  fault : Fault
  deriving DecidableEq, Repr

/--
The text with a mark under the character that the reading stopped at. Of a text of several lines
only the first is shown, with its number: no line end is ever read, so the place is on that line.
-/
def Malformed.picture (malformed : Malformed) : String :=
  let mark := String.ofList (List.replicate malformed.offset ' ') ++ "^"
  if malformed.text.toList.contains '\n' then
    "parse error at line 1, column " ++ toString (malformed.offset + 1) ++ "\n  |\n1 | " ++
      String.ofList (malformed.text.toList.takeWhile (· ≠ '\n')) ++ "\n  | " ++ mark
  else malformed.text ++ "\n" ++ mark

/-- The wording of a malformed text. -/
def Malformed.message (malformed : Malformed) : String :=
  "parser error:\n" ++ malformed.picture ++ "\n" ++ malformed.fault.message

/-- A reading that stopped: the characters it did not read, and what is wrong with them. -/
structure Stop where
  rest : List Char
  fault : Fault
  deriving Repr

/-- Drops the blanks in front. -/
def skipBlanks (input : List Char) : List Char :=
  input.dropWhile fun character => character = ' ' || character = '\t'

/-- The characters behind a leading word, if the text starts with that word. -/
def afterWord? (word : String) (characters : List Char) : Option (List Char) :=
  if word.toList.isPrefixOf characters then some (characters.drop word.length) else none

/-- Whether a name can begin with the character. -/
def beginsName (character : Char) : Bool :=
  character.isAlpha || character = '_' || character = '$'

/-- Whether a name can go on with the character. -/
def continuesName (character : Char) : Bool :=
  beginsName character || character.isDigit

/-- Reads a name. -/
def word? : List Char → Option (String × List Char)
  | [] => none
  | first :: rest =>
      if beginsName first then
        some (String.ofList (first :: rest.takeWhile continuesName), rest.dropWhile continuesName)
      else none

/-- Reads a name, or two names with a dot between them, of which the second may be left out. -/
def named (input : List Char) : Except Stop (TypeText × List Char) :=
  match word? input with
  | none => .error ⟨input, .unexpected⟩
  | some (first, '.' :: rest) =>
      match word? rest with
      | some (second, rest) => .ok (.member first second, rest)
      | none => .ok (.member first "", rest)
  | some (first, rest) => .ok (.name first, rest)

/-- The number that decimal digits stand for. -/
def decimal (digits : List Char) : Nat :=
  digits.foldl (fun total digit => total * 10 + (digit.toNat - 48)) 0

/-- The length in an array suffix, from its digits: no digits leave it open. -/
def suffixLength (digits : List Char) : Except Fault (Option Nat) :=
  if digits.isEmpty then .ok none
  else if 2 ^ 64 ≤ decimal digits then .error .lengthTooLarge
  else if decimal digits = 0 then .error .lengthZero
  else .ok (some (decimal digits))

/-- Reads an array suffix behind its opening bracket. -/
def suffix (input : List Char) : Except Stop (Option Nat × List Char) :=
  let rest := input.dropWhile Char.isDigit
  match suffixLength (input.takeWhile Char.isDigit), rest with
  | .error fault, _ => .error ⟨rest, fault⟩
  | .ok length, ']' :: rest => .ok (length, rest)
  | .ok _, _ => .error ⟨rest, .missing ']'⟩

/--
Reads, as often as the characters begin with a mark, what stands behind the mark. The reading ends
before a mark that nothing can be read behind, unless the fault is final. Every round reads its
mark at least, so as many rounds as there are characters are enough.
-/
def following
    (mark : Char)
    (reader : List Char → Except Stop (α × List Char)) :
    (rounds : Nat) → List Char → Except Stop (List α × List Char)
  | rounds + 1, first :: rest =>
      if first = mark then
        match reader rest with
        | .ok (found, rest) =>
            (following mark reader rounds rest).map fun (more, rest) => (found :: more, rest)
        | .error stop =>
            if stop.fault.isFinal then .error stop else .ok ([], first :: rest)
      else .ok ([], first :: rest)
  | _, rest => .ok ([], rest)

/-- Reads the array suffixes of an item; the leftmost one is the innermost. -/
def suffixes (item : TypeText) : List Char → Except Stop (TypeText × List Char)
  | '[' :: rest => do
      let (first, rest) ← suffix rest
      let (more, rest) ← following '[' suffix rest.length rest
      return ((first :: more).foldl .array item, rest)
  | rest => .ok (item, rest)

/-- Reads a list behind its opening parenthesis. A comma may stand behind the last item. -/
def listed
    (item : List Char → Except Stop (TypeText × List Char))
    (input : List Char) : Except Stop (TypeText × List Char) :=
  match skipBlanks input with
  | ')' :: rest => .ok (.list [], rest)
  | input => do
      let (first, rest) ← item input
      let (more, rest) ← following ',' (fun rest => item (skipBlanks rest)) rest.length rest
      match skipBlanks ((afterWord? "," rest).getD rest) with
      | ')' :: rest => return (.list (first :: more), rest)
      | rest => .error ⟨rest, .missing ')'⟩

/-- The characters behind the opening parenthesis of a list, with or without `tuple` before it. -/
def listOpening? (input : List Char) : Option (List Char) :=
  afterWord? "(" input <|> afterWord? "tuple(" input

/-- Reads one type, in which lists nest to a number of levels at most. -/
def read : (levels : Nat) → List Char → Except Stop (TypeText × List Char)
  | 0, input => .error ⟨input, .nestedTooDeep⟩
  | levels + 1, input => do
      let (item, rest) ←
        match listOpening? input with
        | some rest => listed (read levels) rest
        | none => named input
      suffixes item rest

/-- No item stands inside this many lists. -/
def levelLimit : Nat := 80

/-- Takes the text of a type apart. -/
def parse (text : String) : Except Malformed TypeText :=
  let characters := text.toList
  let stopped (rest : List Char) (fault : Fault) : Malformed :=
    { text, offset := characters.length - rest.length, fault }
  match read levelLimit characters with
  | .ok (found, []) => .ok found
  | .ok (_, rest) => .error (stopped rest .unexpected)
  | .error stop => .error (stopped stop.rest stop.fault)

end TypeText

end ContractGateway
