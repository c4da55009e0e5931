/-!
# Parts of a text

A text is cut at every place where a mark stands. The parts are one more than the marks.
-/

namespace ContractGateway.Text

/-- The parts of a text between marks. -/
def partsBetween (mark : Char) : List Char → List (List Char)
  | [] => [[]]
  | character :: rest =>
      match partsBetween mark rest with
      | [] => [[character]]
      | first :: more =>
          if character = mark then [] :: first :: more else (character :: first) :: more

end ContractGateway.Text
