/-!
# Reading a text piece by piece

A reader takes a piece from the start of a text and gives the rest. Reading everything repeats a reader
until the text is used up. A reader that gives back as much as it was given makes no headway, and then
reading everything fails instead of going on forever.
-/

namespace Interception.Text

/-- Takes a piece from the start of a text and gives the rest. -/
abbrev Reader (α : Type) : Type := List Char → Option (α × List Char)

/-- Applies a reader to the text, then to what it leaves, and so on to the end. -/
def readAll {α : Type} (reader : Reader α) (cs : List Char) : Option (List α) :=
  match cs with
  | [] => some []
  | c :: rest =>
    match reader (c :: rest) with
    | none => none
    | some (piece, left) =>
      if left.length ≤ rest.length then (readAll reader left).map (piece :: ·) else none
termination_by cs.length
decreasing_by simp only [List.length_cons]; omega

/-- Splits the longest part off that consists of characters of a class. -/
def span (isMember : Char → Bool) (cs : List Char) : List Char × List Char :=
  (cs.takeWhile isMember, cs.dropWhile isMember)

end Interception.Text
