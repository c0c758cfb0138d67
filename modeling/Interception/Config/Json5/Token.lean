import Interception.Text.Decimal
import Interception.Text.Identifier
import Interception.Text.Lexeme

/-!
# Tokens of JSON5

A text in JSON5 consists of marks, words, quoted texts and numerals, with blanks and comments between
them. Words and quoted texts may write a character by the number of a UTF-16 unit; two such units in
sequence may form one character, and a unit that is left alone is an error.

A numeral reaches as far as the characters that numerals are made of. Two values have to be separated by a
mark anyway, so nothing that follows a numeral directly can belong to anything else.
-/

namespace Interception.Json5

open Interception.Text

/-- A number as it is written. -/
structure Numeral where
  /-- The value in double precision. -/
  value : Float
  /-- The integer, if the number has neither a point nor an exponent and is finite. -/
  integer? : Option Int

/-- The smallest meaningful part of a text. -/
inductive Token where
  /-- One of the marks of lists and records. -/
  | mark (c : Char)
  /-- A word, and whether it is written without escapes. -/
  | word (name : String) (isPlain : Bool)
  /-- A quoted text. -/
  | text (s : String)
  /-- A number. -/
  | numeral (n : Numeral)

/-- Whether a character ends a line. -/
def isLineEnd (c : Char) : Bool := c = '\n' || c = '\r' || c = '\u2028' || c = '\u2029'

/-- Whether a character may stand between tokens. -/
def isGap (c : Char) : Bool :=
  isLineEnd c || c = '\t' || c = '\x0b' || c = '\x0c' || c = ' ' || c = '\u00a0' || c = '\ufeff' ||
    inRanges [(0x1680, 0x1680), (0x2000, 0x200a), (0x202f, 0x202f), (0x205f, 0x205f), (0x3000, 0x3000)] c

/-! ### Escapes -/

/-- A part of a word or a quoted text. -/
inductive Piece where
  /-- A character that stands for itself or is escaped by its own sign. -/
  | char (c : Char)
  /-- A UTF-16 unit. -/
  | unit (n : Nat)

/-- The characters that pieces write. The two halves of a pair of units must stand side by side. -/
def joinPieces : List Piece → Option (List Char)
  | [] => some []
  | .char c :: rest => (joinPieces rest).map (c :: ·)
  | .unit high :: .unit low :: rest =>
    if 0xd800 ≤ high ∧ high < 0xdc00 then
      if 0xdc00 ≤ low ∧ low < 0xe000 then
        let code := 0x10000 + (high - 0xd800) * 0x400 + (low - 0xdc00)
        (joinPieces rest).map (Char.ofNat code :: ·)
      else none
    else if 0xdc00 ≤ high ∧ high < 0xe000 then none
    else (joinPieces (.unit low :: rest)).map (Char.ofNat high :: ·)
  | .unit n :: rest =>
    if 0xd800 ≤ n ∧ n < 0xe000 then none else (joinPieces rest).map (Char.ofNat n :: ·)

/-- The character that a sign stands for after a backslash. Digits other than zero and the signs of
numbers stand for nothing. -/
def escaped? (c : Char) : Option Char :=
  match c with
  | 'b' => some '\x08'
  | 'f' => some '\x0c'
  | 'n' => some '\n'
  | 'r' => some '\r'
  | 't' => some '\t'
  | 'v' => some '\x0b'
  | '0' => some '\x00'
  | 'x' => none
  | 'u' => none
  | c => if isDigitOf 10 c then none else some c

/-- The pieces up to the closing quote, and the rest after it. A backslash at the end of a line joins it to
the next line. -/
def quotedPieces (quote : Char) : Reader (List Piece)
  | [] => none
  | '\\' :: '\r' :: '\n' :: rest => quotedPieces quote rest
  | '\\' :: 'x' :: a :: b :: rest => do
    let n ← digits? 16 [a, b]
    let (pieces, rest) ← quotedPieces quote rest
    some (.char (Char.ofNat n) :: pieces, rest)
  | '\\' :: 'u' :: a :: b :: c :: d :: rest => do
    let n ← digits? 16 [a, b, c, d]
    let (pieces, rest) ← quotedPieces quote rest
    some (.unit n :: pieces, rest)
  | '\\' :: c :: rest =>
    if isLineEnd c then quotedPieces quote rest
    else do
      let e ← escaped? c
      let (pieces, rest) ← quotedPieces quote rest
      some (.char e :: pieces, rest)
  | c :: rest =>
    if c = quote then some ([], rest)
    else if c = '\\' ∨ isLineEnd c then none
    else do
      let (pieces, rest) ← quotedPieces quote rest
      some (.char c :: pieces, rest)

/-- The pieces of a word as far as it reaches. -/
def wordPieces : List Char → List Piece × List Char
  | [] => ([], [])
  | '\\' :: 'u' :: a :: b :: c :: d :: rest =>
    match digits? 16 [a, b, c, d] with
    | none => ([], '\\' :: 'u' :: a :: b :: c :: d :: rest)
    | some n =>
      let (pieces, rest) := wordPieces rest
      (.unit n :: pieces, rest)
  | c :: rest =>
    if isLetter c || isJoiner c || c = '$' || c = '_' || c = '\u200c' || c = '\u200d' then
      let (pieces, rest) := wordPieces rest
      (.char c :: pieces, rest)
    else ([], c :: rest)

/-- Whether a word may begin with a character. -/
def isWordStart (c : Char) : Bool := isLetter c || c = '$' || c = '_' || c = '\\'

/-! ### Numerals -/

/-- Whether a character may be part of a numeral. -/
def isNumeralPart (c : Char) : Bool := isDigitOf 36 c || c = '.' || c = '+' || c = '-'

/-- Whether a numeral begins with a zero that is followed by another digit. -/
def hasLeadingZero : List Char → Bool
  | '0' :: c :: _ => isDigitOf 10 c
  | _ => false

/-- Reads a whole numeral. Hexadecimal numerals have no sign and at most 32 bits, infinity has no plus
sign, and all other numerals must be finite. -/
def Numeral.read? (cs : List Char) : Option Numeral :=
  match cs with
  | '0' :: 'x' :: digits => hexadecimal? digits
  | '0' :: 'X' :: digits => hexadecimal? digits
  | _ =>
    match String.ofList cs with
    | "Infinity" => some ⟨1 / 0, none⟩
    | "-Infinity" => some ⟨-1 / 0, none⟩
    | "NaN" => some ⟨0 / 0, none⟩
    | "-NaN" => some ⟨0 / 0, none⟩
    | _ =>
      let (isNegative, body) := Decimal.splitSign cs
      if hasLeadingZero body then none
      else do
        let value := (← Decimal.read? cs).toFloat
        let integer? := (digits? 10 body).map fun n => if isNegative then -(n : Int) else n
        if value.isFinite then some { value, integer? } else none
where
  /-- Reads the digits of a hexadecimal numeral. -/
  hexadecimal? (digits : List Char) : Option Numeral := do
    let n ← digits? 16 digits
    if n < UInt32.size then some ⟨Float.ofNat n, some n⟩ else none

/-! ### Comments and tokens -/

/-- The rest of a text after the end of a comment that is closed by a mark. -/
def afterComment? : List Char → Option (List Char)
  | [] => none
  | '*' :: '/' :: rest => some rest
  | _ :: rest => afterComment? rest

/-- Reads a token, or a gap, which gives none. -/
def readToken : Reader (Option Token)
  | [] => none
  | '/' :: '/' :: rest => some (none, rest.dropWhile fun c => !isLineEnd c)
  | '/' :: '*' :: rest => (afterComment? rest).map (none, ·)
  | c :: rest =>
    if isGap c then some (none, rest)
    else if ['{', '}', '[', ']', ':', ','].contains c then some (some (.mark c), rest)
    else if c = '"' ∨ c = '\'' then do
      let (pieces, rest) ← quotedPieces c rest
      some (some (.text (String.ofList (← joinPieces pieces))), rest)
    else if isWordStart c then do
      let (pieces, left) := wordPieces (c :: rest)
      let isPlain := pieces.all fun
        | .char _ => true
        | .unit _ => false
      some (some (.word (String.ofList (← joinPieces pieces)) isPlain), left)
    else if isNumeralPart c then do
      let (run, left) := span isNumeralPart (c :: rest)
      some (some (.numeral (← Numeral.read? run)), left)
    else none

/-- The tokens of a text. -/
def tokens? (text : String) : Option (List Token) :=
  (readAll readToken text.toList).map fun found => found.filterMap id

end Interception.Json5
