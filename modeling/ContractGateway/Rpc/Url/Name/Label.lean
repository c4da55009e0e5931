import ContractGateway.Rpc.Url.Name.Composition
import ContractGateway.Rpc.Url.Name.Joining
import ContractGateway.Rpc.Url.Name.Punycode
import ContractGateway.Rpc.Url.Name.Spelling

/-!
# Labels of names

A name is a row of labels with dots between them. A label beyond ASCII may be written in Punycode
behind the mark `xn--`; then it must be in its settled spelling and its composed form. No label
starts with a mark, and joiners stand only where they are seen.
-/

namespace ContractGateway.Rpc.Url.Name

/-- Whether a text holds nothing but ASCII. -/
def isAscii (text : List Char) : Bool := text.all (·.toNat < 0x80)

/-- The most characters of a label beyond ASCII. -/
def longestLabel : Nat := 1000

/-- The most characters of a label's code. -/
def longestCode : Nat := 2000

/-- The label that a code stands for: one beyond ASCII that could not be spelled in another way. -/
def decodedLabel? (code : List Char) : Option (List Char) := do
  if longestCode < code.length then none
  let label ← Punycode.decode? code
  if !isAscii label && label.all isSettled && composed label = label then some label else none

/-- The label that is meant by a written one. -/
def meantLabel? : List Char → Option (List Char)
  | 'x' :: 'n' :: '-' :: '-' :: code => decodedLabel? code
  | label => some label

/-- Whether a label may stand in a name of any direction. -/
def isLabel (label : List Char) : Bool :=
  !label.head?.any isMark && joinersFit label && (isAscii label || label.length ≤ longestLabel)

end ContractGateway.Rpc.Url.Name
