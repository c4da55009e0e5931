/-!
# Sets of characters

Large sets of characters are written as the ranges of their code points.
-/

namespace ContractGateway.Text

/-- A set of characters, as inclusive ranges of code points in ascending order. -/
abbrev CodePoints := List (Nat × Nat)

/-- Whether a character is in a set. -/
def CodePoints.covers (set : CodePoints) (character : Char) : Bool :=
  set.any fun (first, last) => first ≤ character.toNat && character.toNat ≤ last

end ContractGateway.Text
