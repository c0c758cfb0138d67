import Interception.Pattern.TypeText
import Interception.Signature

/-!
# Pointcuts

A pointcut selects calls by their signatures. It is written `result type.method(parameters)`, as in
`* com.x..*Impl.save(String, ..)`: a glob for the result type, a type pattern for the declaring type,
a glob for the method's name and a pattern for the parameter types.

The result type ends at the first blank character that stands outside angle and square brackets. The
parameters stand between the first opening parenthesis of the rest and its last character. The method
follows the last dot before the parameters; when two dots stand there, both belong to the type
pattern, which then covers a package with all its subpackages.
-/

namespace Interception

/-- Why a text is no pointcut. -/
inductive Pointcut.Fault where
  /-- No blank separates a result type from the rest. -/
  | missingReturnType
  /-- A result or parameter type is no type text. -/
  | badType (fault : TypeText.Fault)
  /-- No parenthesis opens the parameters. -/
  | missingOpening
  /-- The text does not end with a closing parenthesis. -/
  | missingClosing
  /-- No dot separates the type pattern from the method. -/
  | missingTypePattern
  /-- The method is empty or holds a character that no name has. -/
  | badMethod
  /-- The type pattern, given by its text, is malformed. -/
  | badTypePattern (text : String) (fault : TypePattern.Fault)
  /-- Two `..` stand side by side among the parameters. -/
  | repeatedMany
  deriving DecidableEq

/-- The words in which a malformed type pattern is reported. -/
def TypePattern.invalidMessage (text : String) (fault : TypePattern.Fault) : String :=
  "无效的类型模式 '" ++ text ++ "': " ++ fault.message

/-- The words in which a fault is reported. -/
def Pointcut.Fault.message : Pointcut.Fault → String
  | missingReturnType => "缺少返回类型"
  | badType fault => fault.message
  | missingOpening => "缺少 '('"
  | missingClosing => "必须以 ')' 结尾"
  | missingTypePattern => "缺少类型模式"
  | badMethod => "方法模式无效"
  | badTypePattern text fault => TypePattern.invalidMessage text fault
  | repeatedMany => "连续的 '..'"

/-- The words in which a malformed pointcut is reported. -/
def Pointcut.invalidMessage (expression : String) (fault : Pointcut.Fault) : String :=
  "无效的切点表达式 '" ++ expression ++ "': " ++ fault.message

/-- A pattern for call signatures. -/
structure Pointcut where
  /-- The text that the pointcut was read from, without blank ends. -/
  expression : String
  /-- The pattern for the result type. -/
  returnPattern : Glob
  /-- The pattern for the declaring type. -/
  typePattern : TypePattern
  /-- The pattern for the method's name. -/
  methodPattern : Glob
  /-- The pattern for the parameter types. -/
  argsPattern : List Segment
  deriving DecidableEq

namespace Pointcut

/-- Cuts a text at its first blank character at which as many of the brackets `<`, `[` were opened as
`>`, `]` closed. The rest is given without blank ends and must not be empty. `front` holds the
characters before the cut in reverse. -/
def splitReturn (front : List Char) (depth : Int) : List Char → Option (List Char × List Char)
  | [] => none
  | c :: rest =>
    if c = '<' ∨ c = '[' then splitReturn (c :: front) (depth + 1) rest
    else if c = '>' ∨ c = ']' then splitReturn (c :: front) (depth - 1) rest
    else if Text.isBlank c ∧ depth = 0 then
      let rest := Text.trim (c :: rest)
      if rest.isEmpty then none else some (front.reverse, rest)
    else splitReturn (c :: front) depth rest

/-- Cuts a text at its last dot into the texts before and after it. -/
def splitLastDot (text : List Char) : Option (List Char × List Char) :=
  let after := text.reverse.takeWhile (· != '.')
  match text.reverse.dropWhile (· != '.') with
  | [] => none
  | _ :: before => some (before.reverse, after.reverse)

/-- Cuts a text at its commas outside brackets of any kind. -/
def splitCommas (depth : Int) : List Char → List (List Char)
  | [] => [[]]
  | c :: rest =>
    if c = ',' ∧ depth = 0 then [] :: splitCommas depth rest
    else
      let depth :=
        if TypeText.opens c then depth + 1 else if TypeText.closes c then depth - 1 else depth
      match splitCommas depth rest with
      | [] => [[c]]
      | part :: parts => (c :: part) :: parts

/-- Reads the parameter patterns from the texts between the commas. `done` holds those already read. -/
def readParams (done : List Segment) : List (List Char) → Except Fault (List Segment)
  | [] => .ok done
  | token :: tokens =>
    let token := Text.trim token
    if token = ['.', '.'] then
      if done.getLast? = some .many then .error .repeatedMany
      else readParams (done ++ [.many]) tokens
    else
      match TypeText.check token with
      | .error fault => .error (.badType fault)
      | .ok () => readParams (done ++ [.one ⟨token⟩]) tokens

/-- Reads the text between the parentheses. A blank text stands for no parameters. -/
def parseParams (text : List Char) : Except Fault (List Segment) :=
  let text := Text.trim text
  if text.isEmpty then .ok [] else readParams [] (splitCommas 0 text)

/-- Reads what stands before the parameters: a type pattern, a dot and the method. A type pattern
that ends with `..` needs no further dot. -/
def parseHead (head : List Char) : Except Fault (TypePattern × Glob) :=
  match splitLastDot head with
  | none => .error .missingTypePattern
  | some (before, method) =>
    if method.isEmpty || !method.all isIdentifierChar then .error .badMethod
    else
      let typeText := if before.getLast? = some '.' then before ++ ['.'] else before
      match TypePattern.parse typeText with
      | .error (text, fault) => .error (.badTypePattern text fault)
      | .ok pattern => .ok (pattern, ⟨method⟩)

/-- Reads the four patterns of a pointcut from a text without blank ends. -/
def parseTrimmed (text : List Char) : Except Fault Pointcut :=
  match splitReturn [] 0 text with
  | none => .error .missingReturnType
  | some (returnType, rest) =>
    match TypeText.check returnType with
    | .error fault => .error (.badType fault)
    | .ok () =>
      match rest.dropWhile (· != '(') with
      | [] => .error .missingOpening
      | _ :: params =>
        if rest.getLast? ≠ some ')' then .error .missingClosing
        else
          match parseHead (Text.trim (rest.takeWhile (· != '('))) with
          | .error fault => .error fault
          | .ok (typePattern, method) =>
            match parseParams params.dropLast with
            | .error fault => .error fault
            | .ok args => .ok ⟨String.ofList text, ⟨returnType⟩, typePattern, method, args⟩

/-- Reads a pointcut from a text, whose blank ends are ignored. The fault comes with the text that it
was found in. -/
def parse (text : String) : Except (String × Fault) Pointcut :=
  let text := Text.trim text.toList
  match parseTrimmed text with
  | .ok pointcut => .ok pointcut
  | .error fault => .error (String.ofList text, fault)

/-- Whether the pointcut selects calls with the signature. -/
def accepts (pointcut : Pointcut) (signature : CallSignature) : Bool :=
  pointcut.returnPattern.accepts signature.method.returnType.toList &&
    pointcut.methodPattern.accepts signature.method.name.toList &&
    pointcut.typePattern.accepts signature.declaringType &&
    Segment.coverAll pointcut.argsPattern (signature.method.params.map String.toList)

/-- The description of a pointcut. -/
def describe (pointcut : Pointcut) : String :=
  let glob (g : Glob) := Text.describeTagged "Glob" [Text.quoted (String.ofList g.chars)]
  Text.describeRecord "Pointcut"
    [("expression", Text.quoted pointcut.expression),
     ("return_pattern", glob pointcut.returnPattern),
     ("type_pattern", pointcut.typePattern.describe),
     ("method_pattern", glob pointcut.methodPattern),
     ("args_pattern", Text.describeList (pointcut.argsPattern.map Segment.describe))]

end Pointcut

end Interception
