import Interception.Pattern.Segment
import Interception.Text.Alphanumeric
import Interception.Text.Blank

/-!
# Patterns for dotted type names

A type pattern is a dotted path of globs in which `..` covers any number of path segments, as in
`com.x..*Impl`. Neighbouring globs are separated by one dot, and `..` needs no further separator.
Reading a pattern collects the characters of a segment until a dot ends it; a second dot right after
it makes the pair a `..`.

Blank characters around the pattern are ignored, and every other character outside identifiers, stars
and dots is refused.
-/

namespace Interception

/-- Whether a character may stand in an identifier or a glob. -/
def isIdentifierChar (c : Char) : Bool :=
  Text.isAlphanumeric c || c == '_' || c == '$' || c == '*'

/-- Why a text is no type pattern. -/
inductive TypePattern.Fault where
  /-- A `..` stands where a segment has to follow a dot. -/
  | missingSegment
  /-- Two `..` stand side by side. -/
  | repeatedMany
  /-- A dot follows no segment. -/
  | emptySegment
  /-- A character that belongs to no identifier. -/
  | illegalChar (c : Char)
  /-- The pattern ends with a single dot. -/
  | trailingDot
  /-- The pattern has no segment. -/
  | emptyPattern
  deriving DecidableEq

/-- The words in which a fault is reported. -/
def TypePattern.Fault.message : TypePattern.Fault → String
  | missingSegment => "'.' 之后缺少段"
  | repeatedMany => "连续的 '..'"
  | emptySegment => "空段"
  | illegalChar c => "非法字符 '" ++ c.toString ++ "'"
  | trailingDot => "以 '.' 结尾"
  | emptyPattern => "模式为空"

/-- A pattern for dotted type names. -/
structure TypePattern where
  /-- The text that the pattern was read from, without blank ends. -/
  text : String
  /-- The segments in order. -/
  segments : List Segment
  deriving DecidableEq

namespace TypePattern

/-- Ends the segment that is being read, if it has any characters. -/
def closeSegment (done : List Segment) (current : List Char) : List Segment :=
  if current.isEmpty then done else done ++ [.one ⟨current⟩]

/-- Reads the segments of a pattern. `done` holds the segments already read, `current` the characters
of the segment being read, and `afterDot` says that a single dot was just read. -/
def readSegments (done : List Segment) (current : List Char) (afterDot : Bool) :
    List Char → Except Fault (List Segment)
  | [] =>
    if afterDot then .error .trailingDot
    else
      let segments := closeSegment done current
      if segments.isEmpty then .error .emptyPattern else .ok segments
  | '.' :: '.' :: rest =>
    if current.isEmpty && afterDot then .error .missingSegment
    else
      let segments := closeSegment done current
      if segments.getLast? = some .many then .error .repeatedMany
      else readSegments (segments ++ [.many]) [] false rest
  | '.' :: rest =>
    if current.isEmpty then .error .emptySegment
    else readSegments (closeSegment done current) [] true rest
  | c :: rest =>
    if isIdentifierChar c then readSegments done (current ++ [c]) false rest
    else .error (.illegalChar c)

/-- Reads a type pattern from a text, whose blank ends are ignored. The fault comes with the text that
it was found in. -/
def parse (text : List Char) : Except (String × Fault) TypePattern :=
  let text := Text.trim text
  match readSegments [] [] false text with
  | .ok segments => .ok ⟨String.ofList text, segments⟩
  | .error fault => .error (String.ofList text, fault)

/-- The parts of a dotted name: the texts between neighbouring dots, of which there is one more than
there are dots. -/
def nameParts : List Char → List (List Char)
  | [] => [[]]
  | c :: rest =>
    match nameParts rest with
    | [] => [[c]]
    | part :: parts => if c = '.' then [] :: part :: parts else (c :: part) :: parts

/-- Whether the pattern fits a type name. -/
def accepts (pattern : TypePattern) (typeName : String) : Bool :=
  Segment.coverAll pattern.segments (nameParts typeName.toList)

/-- Whether some type name fits both patterns. -/
def overlaps (a b : TypePattern) : Bool := Segment.overlapAll a.segments b.segments

/-- The description of a type pattern. -/
def describe (pattern : TypePattern) : String :=
  Text.describeRecord "TypePattern"
    [("text", Text.quoted pattern.text),
     ("segments", Text.describeList (pattern.segments.map Segment.describe))]

end TypePattern

end Interception
