import ContractGateway.Rpc.Url.Name.Direction
import ContractGateway.Rpc.Url.Name.Label

/-!
# Names of hosts

A name may hold characters of any script. It is read in its settled spelling and its composed form,
and its labels are checked as they are meant. If one label holds characters that run from right to
left, then each label has to run one way.
-/

namespace ContractGateway.Rpc.Url.Name

/-- The spelling of a text, composed; there is none if it holds a character that no name holds. -/
def spelled? (text : List Char) : Option (List Char) := do
  let spellings ← text.mapM spelling?
  let name := composed spellings.flatten
  if name.any isBarredMark then none else some name

/-- Whether labels that are meant by a name can stand side by side. -/
def areLabels (labels : List (List Char)) : Bool :=
  labels.all isLabel && (!labels.any turns || labels.all runsOneWay)

/-- The name that a text spells. -/
def ofText? (text : List Char) : Option (List Char) := do
  let name ← spelled? text
  let labels ← (Text.partsBetween '.' name).mapM meantLabel?
  if areLabels labels then some name else none

end ContractGateway.Rpc.Url.Name
