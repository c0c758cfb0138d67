/-!
# Tables of code points

A character class is given by a list of inclusive ranges of code points. Membership is decided by
looking for a range that holds the code point.
-/

namespace Interception.Text

/-- Whether some range of the table holds the character's code point. -/
def inRanges (ranges : List (Nat × Nat)) (c : Char) : Bool :=
  ranges.any fun range => range.1 ≤ c.toNat && c.toNat ≤ range.2

end Interception.Text
