import Interception.Text.Describe

/-!
# Values of known type

Arguments and results travel through an interception chain without their static types. A value
carries its type along, so that it can be given back at that type and at no other. The types are a
fixed choice of words, texts and small containers; their names are those used in messages.
-/

namespace Interception

/-- The types that a value may have. -/
inductive ValueType where
  /-- The type with one value. -/
  | unit
  /-- Truth values. -/
  | bool
  /-- Unsigned words of 8 bits. -/
  | u8
  /-- Unsigned words of 32 bits. -/
  | u32
  /-- Unsigned words of 64 bits. -/
  | u64
  /-- Signed words of 32 bits. -/
  | i32
  /-- Signed words of 64 bits. -/
  | i64
  /-- Owned texts. -/
  | string
  /-- Borrowed texts. -/
  | str
  /-- Sequences of bytes. -/
  | bytes
  /-- Sequences of owned texts. -/
  | list
  /-- Owned texts that may be absent. -/
  | opt
  deriving DecidableEq

/-- A value together with its type. -/
inductive Value where
  /-- The value without content. -/
  | unit
  /-- A truth value. -/
  | bool (b : Bool)
  /-- An unsigned word of 8 bits. -/
  | u8 (n : UInt8)
  /-- An unsigned word of 32 bits. -/
  | u32 (n : UInt32)
  /-- An unsigned word of 64 bits. -/
  | u64 (n : UInt64)
  /-- A signed word of 32 bits. -/
  | i32 (n : Int32)
  /-- A signed word of 64 bits. -/
  | i64 (n : Int64)
  /-- An owned text. -/
  | string (s : String)
  /-- A borrowed text. -/
  | str (s : String)
  /-- A sequence of bytes. -/
  | bytes (bs : List UInt8)
  /-- A sequence of owned texts. -/
  | list (ss : List String)
  /-- An owned text that may be absent. -/
  | opt (s : Option String)
  deriving DecidableEq

/-- The name of a type in messages. -/
def ValueType.name : ValueType → String
  | unit => "()"
  | bool => "bool"
  | u8 => "u8"
  | u32 => "u32"
  | u64 => "u64"
  | i32 => "i32"
  | i64 => "i64"
  | string => "alloc::string::String"
  | str => "&str"
  | bytes => "alloc::vec::Vec<u8>"
  | list => "alloc::vec::Vec<alloc::string::String>"
  | opt => "core::option::Option<alloc::string::String>"

namespace Value

/-- The type of a value. -/
def type : Value → ValueType
  | unit => .unit
  | bool _ => .bool
  | u8 _ => .u8
  | u32 _ => .u32
  | u64 _ => .u64
  | i32 _ => .i32
  | i64 _ => .i64
  | string _ => .string
  | str _ => .str
  | bytes _ => .bytes
  | list _ => .list
  | opt _ => .opt

/-- The name of the value's type in messages. -/
def typeName (value : Value) : String := value.type.name

/-- The value at the given type, if that is its type. -/
def as? (type : ValueType) (value : Value) : Option Value :=
  if value.type = type then some value else none

/-- The description of a value tells its type only. -/
def describe (value : Value) : String := "Value<" ++ value.typeName ++ ">"

end Value

end Interception
