import Interception.Pattern.TypePattern

/-!
# Texts of types

A type text names a result or parameter type, such as `Vec<(u32, &str)>`. It consists of identifier
characters, stars, brackets and a few connecting signs. The three kinds of brackets are counted
together: the count never falls below zero and ends at zero, and it is not checked which kind of
bracket closes which. The count has no bound.
-/

namespace Interception

/-- Why a text is no type text. -/
inductive TypeText.Fault where
  /-- The text has no characters. -/
  | empty
  /-- A bracket closes nothing, or one is left open. -/
  | unbalanced (text : String)
  /-- A character that no type text has. -/
  | illegalChar (text : String) (c : Char)
  deriving DecidableEq

/-- The words in which a fault is reported. -/
def TypeText.Fault.message : TypeText.Fault → String
  | empty => "类型为空"
  | unbalanced text => "类型 '" ++ text ++ "' 括号不匹配"
  | illegalChar text c => "类型 '" ++ text ++ "' 包含非法字符 '" ++ c.toString ++ "'"

namespace TypeText

/-- Whether the character opens a bracket of any kind. -/
def opens (c : Char) : Bool := c == '<' || c == '[' || c == '('

/-- Whether the character closes a bracket of any kind. -/
def closes (c : Char) : Bool := c == '>' || c == ']' || c == ')'

/-- Whether the character, not being a bracket, may stand in a type text. -/
def isPlain (c : Char) : Bool :=
  isIdentifierChar c || c == '.' || c == ',' || c == ':' || c == '&' || c == ' ' || c == '\''

/-- Checks the characters of a type text one after the other, with `depth` brackets open. -/
def checkFrom (text : List Char) : Nat → List Char → Except Fault Unit
  | depth, [] => if depth = 0 then .ok () else .error (.unbalanced (String.ofList text))
  | depth, c :: rest =>
    if opens c then checkFrom text (depth + 1) rest
    else if closes c then
      match depth with
      | 0 => .error (.unbalanced (String.ofList text))
      | depth + 1 => checkFrom text depth rest
    else if isPlain c then checkFrom text depth rest
    else .error (.illegalChar (String.ofList text) c)

/-- Checks that a text is a type text. -/
def check (text : List Char) : Except Fault Unit :=
  if text.isEmpty then .error .empty else checkFrom text 0 text

end TypeText

end Interception
