import Interception.Config.Toml.Moment
import Interception.Text.Lexeme

/-!
# Words of TOML

These are the parts of a text in TOML that hold no other parts: comments and line ends, quoted texts on one
line or several, keys, and the bare words that stand for truth values, numbers and points in time. Control
characters other than the tab are refused everywhere.

A bare word reaches as far as the characters that such words are made of. Something else has to follow
every value anyway, so what follows a word directly can belong to nothing else.
-/

namespace Interception.Toml

open Interception.Text

/-- Whether a character is blank within a line. -/
def isSpace (c : Char) : Bool := c = ' ' || c = '\t'

/-- Whether a character may stand in a quoted text or a comment. -/
def isPrintable (c : Char) : Bool := c = '\t' || (' ' ≤ c && c ≠ '\x7f')

/-- The text without the blanks at its start. -/
def skipSpace (cs : List Char) : List Char := cs.dropWhile isSpace

/-- The text after a line end. -/
def afterLineEnd? : List Char → Option (List Char)
  | '\n' :: rest => some rest
  | '\r' :: '\n' :: rest => some rest
  | _ => none

/-- The text without a comment at its start. -/
def skipComment : List Char → List Char
  | '#' :: rest => rest.dropWhile isPrintable
  | rest => rest

/-- What follows the rest of a line on which nothing may stand but a comment. -/
def closeLine? (cs : List Char) : Option (List Char) :=
  match skipComment (skipSpace cs) with
  | [] => some []
  | rest => afterLineEnd? rest

/-! ### Quoted texts -/

/-- The character with a code point, if there is one. -/
def charOf? (n : Nat) : Option Char := if n.isValidChar then some (Char.ofNat n) else none

/-- The character that a sign stands for after a backslash. -/
def escaped? : Char → Option Char
  | 'b' => some '\x08'
  | 't' => some '\t'
  | 'n' => some '\n'
  | 'f' => some '\x0c'
  | 'r' => some '\r'
  | '"' => some '"'
  | '\\' => some '\\'
  | _ => none

/-- Puts a character before what a reader gives. -/
def prepend (c : Char) (read : Option (List Char × List Char)) : Option (List Char × List Char) :=
  read.map fun (cs, rest) => (c :: cs, rest)

/-- A text on one line up to the double quote, with escapes. -/
def basicText : Reader (List Char)
  | [] => none
  | '"' :: rest => some ([], rest)
  | '\\' :: 'u' :: a :: b :: c :: d :: rest => do
    prepend (← charOf? (← digits? 16 [a, b, c, d])) (basicText rest)
  | '\\' :: 'U' :: a :: b :: c :: d :: e :: f :: g :: h :: rest => do
    prepend (← charOf? (← digits? 16 [a, b, c, d, e, f, g, h])) (basicText rest)
  | '\\' :: c :: rest => do prepend (← escaped? c) (basicText rest)
  | c :: rest => if isPrintable c ∧ c ≠ '\\' then prepend c (basicText rest) else none

/-- A text on one line up to the single quote, without escapes. -/
def literalText : Reader (List Char)
  | [] => none
  | '\'' :: rest => some ([], rest)
  | c :: rest => if isPrintable c then prepend c (literalText rest) else none

/-- The end of a text on several lines, if it stands here. Up to two quotes before the last three belong to
the text. -/
def closeLines? (quote : Char) (cs : List Char) : Option (List Char × List Char) :=
  let size := min 5 (cs.takeWhile (· = quote)).length
  if 3 ≤ size then some (List.replicate (size - 3) quote, cs.drop size) else none

/-- Whether nothing but blanks is left on the line. -/
def isLineRest (cs : List Char) : Bool := (afterLineEnd? (skipSpace cs)).isSome

/-- A text on several lines up to three double quotes, with escapes. A backslash at the end of a line takes
away the line end and all blanks and line ends after it, which is the case while `trims` holds. -/
def basicLines (trims : Bool) : Reader (List Char)
  | [] => none
  | '\r' :: '\n' :: rest => if trims then basicLines true rest else prepend '\n' (basicLines false rest)
  | '\\' :: 'u' :: a :: b :: c :: d :: rest => do
    prepend (← charOf? (← digits? 16 [a, b, c, d])) (basicLines false rest)
  | '\\' :: 'U' :: a :: b :: c :: d :: e :: f :: g :: h :: rest => do
    prepend (← charOf? (← digits? 16 [a, b, c, d, e, f, g, h])) (basicLines false rest)
  | '\\' :: c :: rest =>
    if isLineRest (c :: rest) then basicLines true (c :: rest)
    else do prepend (← escaped? c) (basicLines false rest)
  | c :: rest =>
    if trims ∧ (isSpace c ∨ c = '\n') then basicLines true rest
    else
      match closeLines? '"' (c :: rest) with
      | some found => some found
      | none =>
        if c = '\n' ∨ (isPrintable c ∧ c ≠ '\\') then prepend c (basicLines false rest) else none

/-- A text on several lines up to three single quotes, without escapes. -/
def literalLines : Reader (List Char)
  | [] => none
  | '\r' :: '\n' :: rest => prepend '\n' (literalLines rest)
  | c :: rest =>
    match closeLines? '\'' (c :: rest) with
    | some found => some found
    | none => if c = '\n' ∨ isPrintable c then prepend c (literalLines rest) else none

/-- The text without a line end at its start. -/
def skipLineEnd (cs : List Char) : List Char := (afterLineEnd? cs).getD cs

/-- A quoted text of any kind, if one begins here. -/
def quotedText? : List Char → Option (Option (String × List Char))
  | '"' :: '"' :: '"' :: rest => some (finish (basicLines false (skipLineEnd rest)))
  | '\'' :: '\'' :: '\'' :: rest => some (finish (literalLines (skipLineEnd rest)))
  | '"' :: rest => some (finish (basicText rest))
  | '\'' :: rest => some (finish (literalText rest))
  | _ => none
where
  /-- Makes a text of the characters that were read. -/
  finish (read : Option (List Char × List Char)) : Option (String × List Char) :=
    read.map fun (cs, rest) => (String.ofList cs, rest)

/-! ### Keys -/

/-- Whether a character may stand in a key without quotes. -/
def isKeyPart (c : Char) : Bool := isDigitOf 36 c || c = '_' || c = '-'

/-- One part of a key: a bare word, or a text quoted on one line. -/
def keyPart? : List Char → Option (String × List Char)
  | '"' :: rest => (basicText rest).map fun (cs, rest) => (String.ofList cs, rest)
  | '\'' :: rest => (literalText rest).map fun (cs, rest) => (String.ofList cs, rest)
  | cs =>
    let (name, rest) := span isKeyPart cs
    if name.isEmpty then none else some (String.ofList name, rest)

/-- A key whose parts are joined by points, of at most `limit` parts. -/
def keyUpTo? : (limit : Nat) → List Char → Option (List String × List Char)
  | 0, _ => none
  | limit + 1, cs => do
    let (part, rest) ← keyPart? (skipSpace cs)
    match skipSpace rest with
    | '.' :: rest => do
      let (parts, rest) ← keyUpTo? limit rest
      some (part :: parts, rest)
    | rest => some ([part], rest)

/-- A key and the text after the blanks that follow it. A key has no more parts than the text has
characters. -/
def key? (cs : List Char) : Option (List String × List Char) := keyUpTo? (cs.length + 1) cs

/-! ### Bare words -/

/-- Whether a character may be part of a bare word. -/
def isWordPart (c : Char) : Bool := isKeyPart c || c = '+' || c = '.' || c = ':'

/-- The bare word at the start of a text. A date may be followed by a blank and a time. -/
def bareWord (cs : List Char) : List Char × List Char :=
  let (word, rest) := span isWordPart cs
  match readDate? word, rest with
  | some (_, []), ' ' :: c :: more =>
    if isDigitOf 10 c then
      let (time, rest) := span isWordPart (c :: more)
      (word ++ ' ' :: time, rest)
    else (word, rest)
  | _, _ => (word, rest)

/-- The digits of a run in which single underscores may stand between digits. -/
def digitRun? (base : Nat) : List Char → Option (List Char)
  | [] => some []
  | '_' :: _ => none
  | c :: '_' :: d :: rest =>
    if isDigitOf base c ∧ isDigitOf base d then (digitRun? base (d :: rest)).map (c :: ·) else none
  | c :: rest => if isDigitOf base c then (digitRun? base rest).map (c :: ·) else none

/-- Whether digits begin with a zero that is not the only one. -/
def hasLeadingZero : List Char → Bool
  | '0' :: _ :: _ => true
  | _ => false

/-- The whole number that a word writes. It must fit 64 bits. -/
def integer? (word : List Char) : Option Int := do
  let n : Int ← match word with
    | '0' :: 'x' :: run => (digitRun? 16 run >>= digits? 16).map Int.ofNat
    | '0' :: 'o' :: run => (digitRun? 8 run >>= digits? 8).map Int.ofNat
    | '0' :: 'b' :: run => (digitRun? 2 run >>= digits? 2).map Int.ofNat
    | _ => do
      let (isNegative, body) := Decimal.splitSign word
      let run ← digitRun? 10 body
      let n ← digits? 10 run
      if hasLeadingZero run then none else some (if isNegative then -(n : Int) else n)
  if Int64.minValue.toInt ≤ n ∧ n ≤ Int64.maxValue.toInt then some n else none

/-- The number that a word with a point or an exponent writes. It must not exceed all finite numbers. -/
def float? (word : List Char) : Option Float :=
  let (isNegative, body) := Decimal.splitSign word
  let signed (x : Float) : Float := if isNegative then -x else x
  match String.ofList body with
  | "inf" => some (signed (1 / 0))
  | "nan" => some (signed (0 / 0))
  | _ => do
    let isDecimal (c : Char) : Bool := isDigitOf 10 c || c = '_'
    let (whole, rest) := span isDecimal body
    let (fraction, rest) ← match rest with
      | '.' :: rest =>
        let (fraction, rest) := span isDecimal rest
        if fraction.isEmpty then none else some (fraction, rest)
      | rest => some ([], rest)
    let wholeRun ← digitRun? 10 whole
    if wholeRun.isEmpty ∨ hasLeadingZero wholeRun ∨ (fraction.isEmpty ∧ rest.isEmpty) then none
    else do
      let fractionRun ← digitRun? 10 fraction
      let exponent ← match rest with
        | [] => some []
        | mark :: rest =>
          let (isLow, run) := Decimal.splitSign rest
          (digitRun? 10 run).map fun run => mark :: (if isLow then '-' :: run else run)
      let plain := wholeRun ++ '.' :: fractionRun ++ exponent
      let x := signed (← Decimal.read? plain).toFloat
      if x == 1 / 0 then none else some x

end Interception.Toml
