import Interception.Pattern.Glob
import Interception.Text.Describe

/-!
# Patterns for sequences of parts

A pattern for a sequence of parts is a list of segments. The segment `..` covers any number of whole
parts, none included, and every other segment is a glob that covers exactly one part. The parts are
the segments of a dotted type name, or the parameter types of a method.

Matching tries every number of parts for each `..`. Two patterns overlap when some sequence of parts
fits both; the check walks through both lists, and a `..` on one side either ends or covers one more
segment of the other side.
-/

namespace Interception

/-- One element of a pattern for a sequence of parts. -/
inductive Segment where
  /-- Any number of parts, written `..`. -/
  | many
  /-- Exactly one part that fits the glob. -/
  | one (glob : Glob)
  deriving DecidableEq

namespace Segment

/-- Whether the parts can be cut into consecutive pieces that fit the segments in order. -/
def coverAll : List Segment → List (List Char) → Bool
  | [], parts => parts.isEmpty
  | many :: rest, parts => (List.range (parts.length + 1)).any fun n => coverAll rest (parts.drop n)
  | one _ :: _, [] => false
  | one glob :: rest, part :: parts => glob.accepts part && coverAll rest parts

/-- Whether some sequence of parts fits both patterns. -/
def overlapAll : List Segment → List Segment → Bool
  | [], [] => true
  | many :: a, [] => overlapAll a []
  | many :: a, y :: b => overlapAll a (y :: b) || overlapAll (many :: a) b
  | [], many :: b => overlapAll [] b
  | one x :: a, many :: b => overlapAll (one x :: a) b || overlapAll a (many :: b)
  | one x :: a, one y :: b => x.overlaps y && overlapAll a b
  | [], one _ :: _ => false
  | one _ :: _, [] => false
termination_by a b => a.length + b.length

/-- The description of a segment. -/
def describe : Segment → String
  | many => "Many"
  | one glob =>
    Text.describeTagged "One" [Text.describeTagged "Glob" [Text.quoted (String.ofList glob.chars)]]

end Segment

end Interception
