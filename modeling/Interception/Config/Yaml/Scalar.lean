import Interception.Text.Decimal
import Interception.Text.Lexeme

/-!
# Scalars of YAML

A scalar is a text without parts. It is written plainly, between quotes, or as a block of lines below a
mark. Except in literal blocks, line ends inside a scalar are folded: a single one becomes a blank, and of
several the first is dropped. Blanks around folded line ends are dropped as well.

Texts are prepared first, so that there is one character for all ordinary line ends. The separators of
lines and paragraphs end lines too, but are never folded.
-/

namespace Interception.Yaml

open Interception.Text

/-! ### Characters -/

/-- Whether a character may stand in a text at all. -/
def isAllowed (c : Char) : Bool :=
  c = '\t' || c = '\n' || c = '\r' || c = '\u0085' || (' ' ≤ c && c ≤ '~') ||
    (0xa0 ≤ c.toNat && c.toNat ≤ 0xfffd) || 0x10000 ≤ c.toNat

/-- The text with one character for each ordinary line end. -/
def unifyLineEnds : List Char → List Char
  | '\r' :: '\n' :: rest => '\n' :: unifyLineEnds rest
  | c :: rest => (if c = '\r' || c = '\u0085' then '\n' else c) :: unifyLineEnds rest
  | [] => []

/-- Whether a character ends a line. -/
def isLineEnd (c : Char) : Bool := c = '\n' || c = '\u2028' || c = '\u2029'

/-- Whether a character is blank within a line. -/
def isBlank (c : Char) : Bool := c = ' ' || c = '\t'

/-- Whether a character separates words. -/
def isSeparator (c : Char) : Bool := isBlank c || isLineEnd c

/-- Whether a word cannot go on here: at a separator or the end of the text. -/
def isAtGap : List Char → Bool
  | [] => true
  | c :: _ => isSeparator c

/-- Whether a line that begins here marks the start or the end of a document. -/
def isAtDocumentMark : List Char → Bool
  | '-' :: '-' :: '-' :: rest => isAtGap rest
  | '.' :: '.' :: '.' :: rest => isAtGap rest
  | _ => false

/-- Whether a character has a meaning of its own between brackets or braces. -/
def isFlowMark (c : Char) : Bool := [',', '[', ']', '{', '}'].contains c

/-- How a scalar is written. -/
inductive Style where
  /-- Plainly. -/
  | plain
  /-- Between quotes or as a block of lines. -/
  | marked
  deriving DecidableEq

/-! ### Folding -/

/-- Line ends in sequence, folded. -/
def foldLineEnds : List Char → List Char
  | [] => []
  | ['\n'] => [' ']
  | '\n' :: rest => rest
  | ends => ends

/-- Separators in sequence, folded. Where they contain no line end they stay as they are. Where they follow
a line end that was taken away, the line ends among them stay. -/
def foldGap (afterJoin : Bool) (gap : List Char) : List Char :=
  let ends := gap.filter isLineEnd
  if afterJoin then ends
  else if ends.isEmpty then gap
  else foldLineEnds ends

/-! ### Plain scalars -/

/-- A plain scalar and what follows it. -/
structure PlainScalar where
  /-- The folded text. -/
  text : List Char
  /-- Whether a line end was passed after the text. -/
  endsLine : Bool
  /-- The text after the scalar and the separators behind it. -/
  rest : List Char

/-- Whether a plain scalar ends here. A colon ends it before a gap. Between brackets the marks of lists and
records end it too, and a colon right before such a mark is an error. -/
def endsPlain? (inFlow : Bool) (c : Char) (rest : List Char) : Option Bool :=
  if c = ':' then
    if isAtGap rest then some true
    else if inFlow && (rest.head?.any fun d => isFlowMark d || d = '?') then none
    else some false
  else some (inFlow && isFlowMark c)

/-- Reads a plain scalar. The column says where the reader stands, and `gap` holds the separators since the
last word. Lines that belong to the scalar are indented at least by `indent`, except between brackets. -/
def plainScalar? (inFlow : Bool) (indent : Int) (column : Nat) (gap : List Char) :
    List Char → Option PlainScalar
  | [] => some ⟨[], gap.any isLineEnd, []⟩
  | c :: rest =>
    let stop : PlainScalar := ⟨[], gap.any isLineEnd, c :: rest⟩
    if isLineEnd c then plainScalar? inFlow indent 0 (gap ++ [c]) rest
    else if isBlank c then
      if c = '\t' && gap.any isLineEnd && (column : Int) < indent then none
      else plainScalar? inFlow indent (column + 1) (gap ++ [c]) rest
    else if !gap.isEmpty && (c = '#' || (column = 0 && isAtDocumentMark (c :: rest)) ||
        (!inFlow && (column : Int) < indent)) then
      some stop
    else do
      if ← endsPlain? inFlow c rest then some stop
      else
        let tail ← plainScalar? inFlow indent (column + 1) [] rest
        some { tail with text := foldGap false gap ++ c :: tail.text }

/-! ### Quoted scalars -/

/-- Whether separators end at the start of a line that marks a document. -/
def isAtForbiddenMark (afterJoin : Bool) (gap rest : List Char) : Bool :=
  (gap.getLast?.map isLineEnd).getD afterJoin && isAtDocumentMark rest

/-- Puts characters before what a reader gives. -/
def prepend (cs : List Char) (read : Option (List Char × List Char)) :
    Option (List Char × List Char) :=
  read.map fun (found, rest) => (cs ++ found, rest)

/-- Reads a scalar up to its single quote. Two single quotes stand for one. -/
def singleQuoted (gap : List Char) : Reader (List Char)
  | [] => none
  | '\'' :: '\'' :: rest =>
    prepend (foldGap false gap ++ ['\'']) (singleQuoted [] rest)
  | '\'' :: rest => some (foldGap false gap, rest)
  | c :: rest =>
    if isSeparator c then singleQuoted (gap ++ [c]) rest
    else if isAtForbiddenMark false gap (c :: rest) then none
    else prepend (foldGap false gap ++ [c]) (singleQuoted [] rest)

/-- The character that a sign stands for after a backslash. -/
def escaped? : Char → Option Char
  | '0' => some '\x00'
  | 'a' => some '\x07'
  | 'b' => some '\x08'
  | 't' => some '\t'
  | '\t' => some '\t'
  | 'n' => some '\n'
  | 'v' => some '\x0b'
  | 'f' => some '\x0c'
  | 'r' => some '\r'
  | 'e' => some '\x1b'
  | ' ' => some ' '
  | '"' => some '"'
  | '/' => some '/'
  | '\\' => some '\\'
  | 'N' => some '\u0085'
  | '_' => some '\u00a0'
  | 'L' => some '\u2028'
  | 'P' => some '\u2029'
  | _ => none

/-- The character with the code point that hexadecimal digits write. -/
def charOfHex? (digits : List Char) : Option Char := do
  let n ← digits? 16 digits
  if n.isValidChar then some (Char.ofNat n) else none

/-- Reads a scalar up to its double quote, with escapes. A backslash takes a line end away, which is
recorded by `afterJoin`. -/
def doubleQuoted (afterJoin : Bool) (gap : List Char) : Reader (List Char)
  | [] => none
  | '"' :: rest => some (foldGap afterJoin gap, rest)
  | '\\' :: 'x' :: a :: b :: rest => do
    let c ← charOfHex? [a, b]
    prepend (foldGap afterJoin gap ++ [c]) (doubleQuoted false [] rest)
  | '\\' :: 'u' :: a :: b :: c :: d :: rest => do
    let c ← charOfHex? [a, b, c, d]
    prepend (foldGap afterJoin gap ++ [c]) (doubleQuoted false [] rest)
  | '\\' :: 'U' :: a :: b :: c :: d :: e :: f :: g :: h :: rest => do
    let c ← charOfHex? [a, b, c, d, e, f, g, h]
    prepend (foldGap afterJoin gap ++ [c]) (doubleQuoted false [] rest)
  | '\\' :: c :: rest =>
    if isLineEnd c then prepend (foldGap afterJoin gap) (doubleQuoted true [] rest)
    else do
      let c ← escaped? c
      prepend (foldGap afterJoin gap ++ [c]) (doubleQuoted false [] rest)
  | c :: rest =>
    if isSeparator c then doubleQuoted afterJoin (gap ++ [c]) rest
    else if c = '\\' || isAtForbiddenMark afterJoin gap (c :: rest) then none
    else prepend (foldGap afterJoin gap ++ [c]) (doubleQuoted false [] rest)

/-! ### Blocks of lines -/

/-- A line and the character that ends it, which the last line of a text does not have. -/
structure Line where
  /-- The characters of the line. -/
  chars : List Char
  /-- The line end. -/
  ending : Option Char

/-- The lines of a text. -/
def splitLines : List Char → List Line
  | [] => [⟨[], none⟩]
  | c :: rest =>
    if isLineEnd c then ⟨[], some c⟩ :: splitLines rest
    else
      match splitLines rest with
      | line :: lines => { line with chars := c :: line.chars } :: lines
      | [] => [⟨[c], none⟩]

/-- The text of lines. -/
def joinLines (lines : List Line) : List Char :=
  lines.flatMap fun line => line.chars ++ line.ending.toList

/-- What happens to line ends at the end of a block. -/
inductive Chomping where
  /-- All of them are dropped. -/
  | strip
  /-- One is kept. -/
  | clip
  /-- All of them are kept. -/
  | keep
  deriving DecidableEq

/-- What the line says on which a block begins. -/
structure BlockHeader where
  /-- The indentation of the block in relation to what is around it, if it is given. -/
  increment : Option Nat
  /-- What happens to line ends at the end. -/
  chomping : Chomping

/-- The increment that a digit other than zero gives. -/
def increment? (c : Char) : Option Nat := (digitValue? 10 c).filter (0 < ·)

/-- The way of chomping that a sign gives. -/
def chomping? : Char → Option Chomping
  | '+' => some .keep
  | '-' => some .strip
  | _ => none

/-- Reads a block header. The sign and the digit may stand in any order, and zero is no increment. -/
def blockHeader? : List Char → Option (BlockHeader × List Char)
  | c :: d :: rest =>
    match chomping? c, chomping? d with
    | some chomping, _ =>
      if d = '0' then none
      else match increment? d with
        | some n => some (⟨some n, chomping⟩, rest)
        | none => some (⟨none, chomping⟩, d :: rest)
    | none, some chomping =>
      match increment? c with
      | some n => some (⟨some n, chomping⟩, rest)
      | none => if c = '0' then none else some (⟨none, .clip⟩, c :: d :: rest)
    | none, none =>
      match increment? c with
      | some n => some (⟨some n, .clip⟩, d :: rest)
      | none => if c = '0' then none else some (⟨none, .clip⟩, c :: d :: rest)
  | [c] =>
    match chomping? c, increment? c with
    | some chomping, _ => some (⟨none, chomping⟩, [])
    | none, some n => some (⟨some n, .clip⟩, [])
    | none, none => if c = '0' then none else some (⟨none, .clip⟩, [c])
  | [] => some (⟨none, .clip⟩, [])

/-- The text after the rest of a header line, on which only a comment may stand. -/
def afterHeader? (cs : List Char) : Option (List Char) :=
  let rest := cs.dropWhile isBlank
  let rest := if rest.head? = some '#' then rest.dropWhile fun c => !isLineEnd c else rest
  match rest with
  | [] => some []
  | c :: rest => if isLineEnd c then some rest else none

/-- The number of spaces at the start of a line. -/
def Line.spaces (line : Line) : Nat := (line.chars.takeWhile (· = ' ')).length

/-- Whether a line consists of spaces only and is ended. -/
def Line.isEmpty (line : Line) : Bool := line.chars.all (· = ' ') && line.ending.isSome

/-- Whether a tab stands right after the spaces at the start of a line. -/
def Line.hasTab (line : Line) : Bool := (line.chars.drop line.spaces).head? = some '\t'

/-- The indentation that the first lines of a block show, which is at least `least`. Tabs must not stand in
it. -/
def shownIndent? (least : Nat) : List Line → Option Nat
  | [] => some least
  | line :: lines =>
    if line.hasTab then none
    else if line.isEmpty then (shownIndent? least lines).map (max line.spaces)
    else some (max line.spaces least)

/-- A block as far as it was read. -/
structure Block where
  /-- The text without the line ends that are still open. -/
  text : List Char
  /-- The end of the last line that is not empty. -/
  lastEnd : List Char
  /-- The ends of the empty lines since then. -/
  emptyEnds : List Char
  /-- Whether the last line that is not empty begins with a blank. -/
  isIndented : Bool

namespace Block

/-- Adds a line that is not empty. Line ends are folded only between lines that do not begin with a
blank. -/
def addLine (isLiteral : Bool) (block : Block) (chars ending : List Char) : Block :=
  let isIndented := chars.head?.any isBlank
  let folds := !isLiteral && block.lastEnd == ['\n'] && !block.isIndented && !isIndented
  let ends :=
    if folds then
      if block.emptyEnds.isEmpty then [' '] else block.emptyEnds
    else block.lastEnd ++ block.emptyEnds
  ⟨block.text ++ ends ++ chars, ending, [], isIndented⟩

/-- The text with the line ends at its end that are kept. -/
def chomp (block : Block) : Chomping → List Char
  | .strip => block.text
  | .clip => block.text ++ block.lastEnd
  | .keep => block.text ++ block.lastEnd ++ block.emptyEnds

/-- Reads the lines of a block and gives those after it. -/
def read? (isLiteral : Bool) (indent : Nat) (block : Block) : List Line → Option (Block × List Line)
  | [] => some (block, [])
  | line :: lines =>
    let body := line.chars.drop (min indent line.spaces)
    if line.spaces < indent ∧ line.hasTab then none
    else if body.isEmpty then
      match line.ending with
      | some e => read? isLiteral indent { block with emptyEnds := block.emptyEnds ++ [e] } lines
      | none => some (block, line :: lines)
    else if line.spaces < indent then some (block, line :: lines)
    else read? isLiteral indent (block.addLine isLiteral body line.ending.toList) lines

end Block

/-- Reads a block from its header on. What is around the block is indented by `parent`, which is negative
at the outermost level. -/
def blockScalar? (isLiteral : Bool) (parent : Int) (cs : List Char) :
    Option (List Char × List Char) := do
  let (header, rest) ← blockHeader? cs
  let lines := splitLines (← afterHeader? rest)
  let indent ← match header.increment with
    | some n => some (n + parent.toNat)
    | none => shownIndent? (max 1 (parent + 1).toNat) lines
  let (block, lines) ← Block.read? isLiteral indent ⟨[], [], [], false⟩ lines
  some (block.chomp header.chomping, joinLines lines)

end Interception.Yaml
