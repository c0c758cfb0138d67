import Interception.Text.Unprintable

/-!
# Quoted text

A quoted text stands between double quotes. Quotes and backslashes are escaped by a backslash, the
four common control characters have letters of their own, and every other character without a shape
is written by its code point in lower-case hexadecimal digits.
-/

namespace Interception.Text

/-- The code point of a character in braces, as in a numeric escape. -/
def codePointEscape (c : Char) : List Char :=
  '\\' :: 'u' :: '\x7b' :: (Nat.toDigits 16 c.toNat ++ ['\x7d'])

/-- The written form of one character inside a quoted text. -/
def quotedChar (c : Char) : List Char :=
  match c with
  | '\x00' => ['\\', '0']
  | '\t' => ['\\', 't']
  | '\n' => ['\\', 'n']
  | '\r' => ['\\', 'r']
  | '"' => ['\\', '"']
  | '\\' => ['\\', '\\']
  | c => if isUnprintable c then codePointEscape c else [c]

/-- The text between double quotes, with escapes. -/
def quoted (text : String) : String :=
  String.ofList ('"' :: (text.toList.flatMap quotedChar ++ ['"']))

end Interception.Text
