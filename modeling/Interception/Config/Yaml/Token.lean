import Interception.Config.Yaml.Scalar

/-!
# Tokens of YAML

A text in YAML is structured by marks and by indentation. Both appear as tokens here: where the indentation
grows, a token begins a list or a record, and where it shrinks, a token ends it.

The name of a field need not be announced. A scalar or a list or record between brackets may turn out to be
a name when a colon follows it on the same line. Every such place is therefore remembered, one for each level
of brackets, and the token that announces the name is put in afterwards. A place is given up at the end of its
line, and after 1024 characters. It is an error to give up a place that has to be a name because it begins
a line of a record.
-/

namespace Interception.Yaml

open Interception.Text

/-- The smallest meaningful part of a text. -/
inductive Token where
  /-- A line that names a version of the format. -/
  | version
  /-- A short form and what it stands for in tags. -/
  | tagHandle (handle stem : String)
  /-- The mark at the start of a document. -/
  | documentStart
  /-- The mark at the end of a document. -/
  | documentEnd
  /-- The start of a list that is made by indentation. -/
  | blockList
  /-- The start of a record that is made by indentation. -/
  | blockRecord
  /-- The end of a list or record that is made by indentation. -/
  | blockEnd
  /-- The mark before an item of a list that is made by indentation. -/
  | entry
  /-- The start of the name of a field. -/
  | key
  /-- The start of the value of a field. -/
  | value
  /-- One of the marks of lists and records between brackets and braces. -/
  | flow (c : Char)
  /-- A name for the node that follows. -/
  | anchor (name : String)
  /-- The node of a name. -/
  | alias (name : String)
  /-- The tag of the node that follows, with its short form apart. -/
  | tag (handle suffix : String)
  /-- A text without parts. -/
  | scalar (style : Style) (text : String)
  deriving DecidableEq

/-- A place at which the name of a field may have begun. -/
structure NamePlace where
  /-- The number of tokens before the place. -/
  token : Nat
  /-- Whether nothing but a name is possible here. -/
  isRequired : Bool
  /-- The number of characters before the place. -/
  index : Nat
  /-- The number of the line. -/
  line : Nat
  /-- The number of characters before the place on its line. -/
  column : Nat

/-- Where the reader of a text stands. -/
structure Scanner where
  /-- What is still to be read. -/
  rest : List Char
  /-- The number of characters that were read. -/
  index : Nat
  /-- The number of lines that were read. -/
  line : Nat
  /-- The number of characters that were read on the line. -/
  column : Nat
  /-- The columns of the open lists and records that are made by indentation, the innermost first. -/
  indents : List Nat
  /-- The place at which a name may have begun, if there is one. -/
  place : Option NamePlace
  /-- The same for the levels of brackets around the one that is open, the innermost first. -/
  outerPlaces : List (Option NamePlace)
  /-- Whether a name may begin at the next token. -/
  allowsName : Bool
  /-- The tokens so far. -/
  tokens : Array Token

namespace Scanner

/-- The scanner at the start of a text. -/
def start (cs : List Char) : Scanner := ⟨cs, 0, 0, 0, [], none, [], true, #[]⟩

/-- Whether brackets or braces are open. -/
def isInFlow (s : Scanner) : Bool := !s.outerPlaces.isEmpty

/-- The indentation of what is open, which is negative at the outermost level. -/
def indent (s : Scanner) : Int := (s.indents.head?.map Int.ofNat).getD (-1)

/-- Moves on to a rest of the text. -/
def moveTo (s : Scanner) (rest : List Char) : Scanner :=
  let passed := s.rest.take (s.rest.length - rest.length)
  passed.foldl (fun s c =>
    if isLineEnd c then { s with index := s.index + 1, line := s.line + 1, column := 0 }
    else { s with index := s.index + 1, column := s.column + 1 }) { s with rest }

/-- Adds a token. -/
def add (s : Scanner) (token : Token) : Scanner := { s with tokens := s.tokens.push token }

/-- Adds a token, moves on, and says whether a name may begin next. -/
def take (s : Scanner) (token : Token) (rest : List Char) (allowsName : Bool) : Scanner :=
  { (s.add token).moveTo rest with allowsName }

/-- Puts tokens in after the first `n`. -/
def insert (s : Scanner) (n : Nat) (tokens : Array Token) : Scanner :=
  { s with tokens := s.tokens.extract 0 n ++ tokens ++ s.tokens.extract n s.tokens.size }

/-! ### Places of names -/

/-- Gives the place of a name up. -/
def dropPlace? (s : Scanner) : Option Scanner :=
  if s.place.any NamePlace.isRequired then none else some { s with place := none }

/-- Remembers that a name may begin here. -/
def savePlace? (s : Scanner) : Option Scanner :=
  if s.allowsName then do
    let s ← s.dropPlace?
    let isRequired := !s.isInFlow && s.indent == s.column
    some { s with place := some ⟨s.tokens.size, isRequired, s.index, s.line, s.column⟩ }
  else some s

/-- The place, unless it is too far away. -/
def checkPlace? (s : Scanner) : Option NamePlace → Option (Option NamePlace)
  | none => some none
  | some place =>
    if place.line < s.line ∨ place.index + 1024 < s.index then
      if place.isRequired then none else some none
    else some (some place)

/-- Gives up all places that are too far away. -/
def dropStale? (s : Scanner) : Option Scanner := do
  let place ← s.checkPlace? s.place
  let outerPlaces ← s.outerPlaces.mapM s.checkPlace?
  some { s with place, outerPlaces }

/-! ### Indentation -/

/-- Ends the lists and records that are indented more than the column. -/
def unindent (s : Scanner) (column : Int) : Scanner :=
  if s.isInFlow then s
  else
    let closed := s.indents.takeWhile fun (n : Nat) => column < (n : Int)
    { s with
      indents := s.indents.drop closed.length
      tokens := s.tokens ++ (closed.map fun _ => Token.blockEnd).toArray }

/-- Begins a list or record after the first `n` tokens, if the column is indented more than what is
open. -/
def beginBlock (s : Scanner) (column n : Nat) (token : Token) : Scanner :=
  if s.isInFlow ∨ (column : Int) ≤ s.indent then s
  else { s.insert n #[token] with indents := column :: s.indents }

/-! ### Gaps -/

/-- The text after separators and comments, and whether a name may begin there. A tab is no separator where
a name may begin. -/
def skipGap (inFlow : Bool) : (inComment allowsName : Bool) → List Char → List Char × Bool
  | _, allowsName, [] => ([], allowsName)
  | inComment, allowsName, c :: rest =>
    if isLineEnd c then skipGap inFlow false (allowsName || !inFlow) rest
    else if inComment then skipGap inFlow true allowsName rest
    else if c = '#' then skipGap inFlow true allowsName rest
    else if c = ' ' || (c = '\t' && (inFlow || !allowsName)) then skipGap inFlow false allowsName rest
    else (c :: rest, allowsName)

/-- Moves on to the next token. -/
def moveToToken (s : Scanner) : Scanner :=
  let (rest, allowsName) := skipGap s.isInFlow false s.allowsName s.rest
  { s.moveTo rest with allowsName }

/-! ### Names and tags -/

/-- Whether a character may stand in the name of a node. -/
def isNamePart (c : Char) : Bool := isDigitOf 36 c || c = '-' || c = '_'

/-- Reads the name of a node. -/
def nodeName? (cs : List Char) : Option (String × List Char) :=
  let (name, rest) := span isNamePart cs
  let ends := isAtGap rest || rest.head?.any ['?', ':', ',', ']', '}', '%', '@', '`'].contains
  if name.isEmpty || !ends then none else some (String.ofList name, rest)

/-- Whether a character may stand in a tag. Some may do so only between angle brackets. -/
def isTagPart (isBracketed : Bool) (c : Char) : Bool :=
  isNamePart c ||
    [';', '/', '?', ':', '@', '&', '=', '+', '$', '.', '!', '~', '*', '\'', '(', ')', '%'].contains c ||
    (isBracketed && [',', '[', ']'].contains c)

/-- The bytes of a tag in which bytes may be written in hexadecimal after a percent sign. -/
def tagBytes? : List Char → Option (List UInt8)
  | [] => some []
  | '%' :: a :: b :: rest => do
    let n ← digits? 16 [a, b]
    some (UInt8.ofNat n :: (← tagBytes? rest))
  | c :: rest => if c = '%' then none else (tagBytes? rest).map (String.utf8EncodeChar c ++ ·)

/-- The text of a part of a tag. -/
def tagText? (cs : List Char) : Option String := do
  String.fromUTF8? (ByteArray.mk (← tagBytes? cs).toArray)

/-- Reads a tag after its exclamation mark: a short form between two such marks and a suffix, or else a
suffix alone. -/
def shortTag? (cs : List Char) : Option (Token × List Char) :=
  let (word, rest) := span isNamePart cs
  match rest with
  | '!' :: rest => do
    let (suffix, rest) := span (isTagPart false) rest
    if suffix.isEmpty then none
    else some (.tag ("!" ++ String.ofList word ++ "!") (← tagText? suffix), rest)
  | _ => do
    let (suffix, rest) := span (isTagPart false) cs
    if suffix.isEmpty then some (.tag "" "!", rest) else some (.tag "!" (← tagText? suffix), rest)

/-- Reads a tag after its exclamation mark. -/
def tag? (inFlow : Bool) (cs : List Char) : Option (Token × List Char) := do
  let (token, rest) ← match cs with
    | '<' :: rest =>
      let (suffix, rest) := span (isTagPart true) rest
      match suffix.isEmpty, rest with
      | false, '>' :: rest => (tagText? suffix).map fun s => (.tag "" s, rest)
      | _, _ => none
    | cs => shortTag? cs
  if isAtGap rest || (inFlow && rest.head? = some ',') then some (token, rest) else none

/-! ### Directives -/

/-- The words of a line before its comment. -/
def lineWords (cs : List Char) : List (List Char) :=
  let line := cs.takeWhile fun c => !isLineEnd c
  ((line.splitBy fun a b => isBlank a == isBlank b).filter fun word => !word.all isBlank).takeWhile
    fun word => word.head? ≠ some '#'

/-- Whether a word is a short form of tags. -/
def isHandle : List Char → Bool
  | ['!'] => true
  | '!' :: rest => rest.getLast? = some '!' && rest.dropLast.all isNamePart
  | _ => false

/-- What a directive says: a known version, or a short form of tags. -/
def directive? (cs : List Char) : Option Token :=
  match (lineWords cs).map String.ofList with
  | ["YAML", version] => if version = "1.1" ∨ version = "1.2" then some .version else none
  | ["TAG", handle, stem] =>
    if isHandle handle.toList ∧ stem.toList.all (isTagPart true) then
      (tagText? stem.toList).map (.tagHandle handle)
    else none
  | _ => none

/-! ### Tokens -/

/-- Ends everything that is made by indentation. -/
def leaveBlocks? (s : Scanner) : Option Scanner := do
  some { ← (s.unindent (-1)).dropPlace? with allowsName := false }

/-- Opens brackets or braces. -/
def openFlow? (s : Scanner) (c : Char) (rest : List Char) : Option Scanner := do
  let s ← s.savePlace?
  some { s.take (.flow c) rest true with place := none, outerPlaces := s.place :: s.outerPlaces }

/-- Closes brackets or braces. -/
def closeFlow? (s : Scanner) (c : Char) (rest : List Char) : Option Scanner := do
  let s ← s.dropPlace?
  let s := match s.outerPlaces with
    | place :: outerPlaces => { s with place, outerPlaces }
    | [] => s
  some (s.take (.flow c) rest false)

/-- Takes a mark that begins an item, or a name that is announced. -/
def beginPart? (s : Scanner) (block token : Token) (rest : List Char) (allowsName : Bool) :
    Option Scanner :=
  if s.isInFlow then do some ((← s.dropPlace?).take token rest allowsName)
  else if s.allowsName then do
    some ((← (s.beginBlock s.column s.tokens.size block).dropPlace?).take token rest allowsName)
  else none

/-- Takes the mark between a name and its value. -/
def beginValue? (s : Scanner) (rest : List Char) : Option Scanner :=
  match s.place with
  | some place =>
    let s := (s.insert place.token #[.key]).beginBlock place.column place.token .blockRecord
    some ({ s with place := none }.take .value rest false)
  | none =>
    if s.isInFlow then some (s.take .value rest false)
    else if s.allowsName then
      some ((s.beginBlock s.column s.tokens.size .blockRecord).take .value rest true)
    else none

/-- Takes a token that may be a name or stand before one. -/
def takeNode? (s : Scanner) (found : Option (Token × List Char)) : Option Scanner := do
  let s ← s.savePlace?
  let (token, rest) ← found
  some (s.take token rest false)

/-- Takes a block of lines. -/
def takeBlock? (s : Scanner) (isLiteral : Bool) (rest : List Char) : Option Scanner := do
  let s ← s.dropPlace?
  let (text, rest) ← blockScalar? isLiteral s.indent rest
  some (s.take (.scalar .marked (String.ofList text)) rest true)

/-- A quoted scalar as a token. -/
def quotedToken (read : Option (List Char × List Char)) : Option (Token × List Char) :=
  read.map fun (text, rest) => (.scalar .marked (String.ofList text), rest)

/-- Whether a plain scalar may begin here. -/
def beginsPlain (inFlow : Bool) (c : Char) (rest : List Char) : Bool :=
  if c = '-' then !(rest.head?.any isBlank)
  else if c = '?' || c = ':' then !inFlow && !isAtGap rest
  else
    !(isSeparator c || isFlowMark c ||
      ['#', '&', '*', '!', '|', '>', '\'', '"', '%', '@', '`'].contains c)

/-- Takes a plain scalar. A name may begin after it if it ends its line. -/
def takePlain? (s : Scanner) : Option Scanner := do
  let s ← s.savePlace?
  let found ← plainScalar? s.isInFlow (s.indent + 1) s.column [] s.rest
  some (s.take (.scalar .plain (String.ofList found.text)) found.rest found.endsLine)

/-- Takes the next token. -/
def next? (s : Scanner) : Option Scanner := do
  let s ← s.moveToToken.dropStale?
  let s := s.unindent s.column
  match s.rest with
  | [] => s.leaveBlocks?
  | c :: rest =>
    if s.column = 0 ∧ c = '%' then
      let token ← directive? rest
      some ((← s.leaveBlocks?).take token (rest.dropWhile fun c => !isLineEnd c) false)
    else if s.column = 0 ∧ isAtDocumentMark s.rest then
      let token := if c = '-' then Token.documentStart else .documentEnd
      some ((← s.leaveBlocks?).take token (rest.drop 2) false)
    else if c = '[' ∨ c = '{' then s.openFlow? c rest
    else if c = ']' ∨ c = '}' then s.closeFlow? c rest
    else if c = ',' then some ((← s.dropPlace?).take (.flow c) rest true)
    else if c = '-' ∧ isAtGap rest then s.beginPart? .blockList .entry rest true
    else if c = '?' ∧ (s.isInFlow ∨ isAtGap rest) then
      s.beginPart? .blockRecord .key rest !s.isInFlow
    else if c = ':' ∧ (s.isInFlow ∨ isAtGap rest) then s.beginValue? rest
    else if c = '*' then s.takeNode? ((nodeName? rest).map fun (n, rest) => (.alias n, rest))
    else if c = '&' then s.takeNode? ((nodeName? rest).map fun (n, rest) => (.anchor n, rest))
    else if c = '!' then s.takeNode? (tag? s.isInFlow rest)
    else if (c = '|' ∨ c = '>') ∧ !s.isInFlow then s.takeBlock? (c = '|') rest
    else if c = '\'' then s.takeNode? (quotedToken (singleQuoted [] rest))
    else if c = '"' then s.takeNode? (quotedToken (doubleQuoted false [] rest))
    else if beginsPlain s.isInFlow c rest then s.takePlain?
    else none

/-- Takes all tokens. Every step takes a character, up to the one at the end of the text, which closes what
is open. -/
def run? (s : Scanner) : Option (List Token) :=
  if s.rest = [] then (s.next?).map fun s => s.tokens.toList
  else
    match s.next? with
    | none => none
    | some s' => if s'.rest.length < s.rest.length then run? s' else none
termination_by s.rest.length

end Scanner

/-- The tokens of a text. A mark of the byte order may stand at its start. -/
def tokens? (text : String) : Option (List Token) :=
  let cs := match text.toList with
    | '\ufeff' :: rest => rest
    | cs => cs
  if cs.all isAllowed then (Scanner.start (unifyLineEnds cs)).run? else none

end Interception.Yaml
