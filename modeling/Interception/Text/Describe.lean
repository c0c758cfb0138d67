import Interception.Text.Quoted

/-!
# Descriptions of values

A description shows a value with its structure: records with named fields, tagged values with their
arguments in parentheses, lists in brackets, and optional values as `Some(..)` or `None`. The
functions here put together descriptions of the parts.
-/

namespace Interception.Text

/-- The parts with a separator between neighbours. -/
def joined (separator : String) (parts : List String) : String := separator.intercalate parts

/-- A record with its fields in order. -/
def describeRecord (name : String) (fields : List (String × String)) : String :=
  name ++ " \x7b " ++ joined ", " (fields.map fun f => f.1 ++ ": " ++ f.2) ++ " \x7d"

/-- A tagged value with its arguments. -/
def describeTagged (name : String) (parts : List String) : String :=
  name ++ "(" ++ joined ", " parts ++ ")"

/-- A list of described elements. -/
def describeList (parts : List String) : String := "[" ++ joined ", " parts ++ "]"

/-- An optional value, described when it is there. -/
def describeOption : Option String → String
  | some part => describeTagged "Some" [part]
  | none => "None"

/-- Texts in increasing order. -/
def sorted (texts : List String) : List String := texts.mergeSort fun a b => !(b < a)

/-- A truth value by its name. -/
def describeBool : Bool → String
  | true => "true"
  | false => "false"

end Interception.Text
