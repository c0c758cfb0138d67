import Interception.Error

/-!
# Argument lists

The arguments of a call are a list of values. Advices may inspect and replace them before the target
is entered. The target takes them one after the other, each at the type it expects; a reader counts
the positions, and the first missing or unfit argument is reported with its position.
-/

namespace Interception

/-- The arguments of a call in order. -/
structure Arguments where
  /-- The values in order. -/
  values : List Value
  deriving DecidableEq

namespace Arguments

/-- No arguments. -/
def empty : Arguments := ⟨[]⟩

/-- The number of arguments. -/
def size (arguments : Arguments) : Nat := arguments.values.length

/-- The argument at a position. -/
def get? (arguments : Arguments) (index : Nat) : Option Value := arguments.values[index]?

/-- The argument at a position, if it has the given type. -/
def getAs? (arguments : Arguments) (index : Nat) (type : ValueType) : Option Value :=
  (arguments.get? index).bind (Value.as? type)

/-- The arguments with one more at the end. -/
def push (arguments : Arguments) (value : Value) : Arguments := ⟨arguments.values ++ [value]⟩

/-- The arguments with another value at a position, which must exist. -/
def set (arguments : Arguments) (index : Nat) (value : Value) : Except AopError Arguments :=
  if index < arguments.size then
    .ok ⟨arguments.values.set index value⟩
  else
    .error (.argument index "existing argument" (toString arguments.size ++ " arguments"))

/-- The arguments with another value of the same type at a position, if one of that type is there. -/
def overwrite? (arguments : Arguments) (index : Nat) (value : Value) : Option Arguments :=
  (arguments.getAs? index value.type).map fun _ => ⟨arguments.values.set index value⟩

/-- The names of the arguments' types in order. -/
def typeNames (arguments : Arguments) : List String := arguments.values.map Value.typeName

/-- The description of an argument list. -/
def describe (arguments : Arguments) : String :=
  Text.describeRecord "Arguments" [("values", Text.describeList (arguments.values.map Value.describe))]

end Arguments

/-- Takes arguments one after the other. -/
structure ArgumentReader where
  /-- The arguments not yet taken. -/
  remaining : List Value
  /-- The position of the next argument. -/
  index : Nat
  deriving DecidableEq

namespace ArgumentReader

/-- A reader at the first argument. -/
def ofArguments (arguments : Arguments) : ArgumentReader := ⟨arguments.values, 0⟩

/-- Takes the next argument at the given type. The position moves on in any case. -/
def take (reader : ArgumentReader) (type : ValueType) : Except AopError Value × ArgumentReader :=
  match reader.remaining with
  | [] => (.error (.argument reader.index type.name "missing"), ⟨[], reader.index + 1⟩)
  | value :: rest =>
    (if value.type = type then .ok value
      else .error (.argument reader.index type.name value.typeName),
     ⟨rest, reader.index + 1⟩)

/-- Takes arguments at the given types in order, up to the first failure. -/
def takeAll (reader : ArgumentReader) :
    List ValueType → Except AopError (List Value × ArgumentReader)
  | [] => .ok ([], reader)
  | type :: types =>
    match reader.take type with
    | (.error error, _) => .error error
    | (.ok value, reader) =>
      match reader.takeAll types with
      | .error error => .error error
      | .ok (values, reader) => .ok (value :: values, reader)

end ArgumentReader

end Interception
