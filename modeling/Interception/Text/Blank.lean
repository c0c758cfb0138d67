import Interception.Text.Ranges

/-!
# Blank characters and trimming

A character is blank when it has the Unicode property `White_Space`. Trimming removes the blank
characters at both ends of a text and keeps those between other characters. A text is blank when
trimming leaves nothing.
-/

namespace Interception.Text

/-- Code points with the property `White_Space`. -/
def blankRanges : List (Nat × Nat) :=
  [(0x9, 0xd), (0x20, 0x20), (0x85, 0x85), (0xa0, 0xa0), (0x1680, 0x1680), (0x2000, 0x200a),
   (0x2028, 0x2029), (0x202f, 0x202f), (0x205f, 0x205f), (0x3000, 0x3000)]

/-- Whether a character is white space. -/
def isBlank (c : Char) : Bool := inRanges blankRanges c

/-- The text without the blank characters at its start. -/
def trimStart (cs : List Char) : List Char := cs.dropWhile isBlank

/-- The text without the blank characters at its end. -/
def trimEnd (cs : List Char) : List Char := (trimStart cs.reverse).reverse

/-- The text without the blank characters at both ends. -/
def trim (cs : List Char) : List Char := trimEnd (trimStart cs)

/-- Whether the text consists of blank characters only. -/
def isBlankText (text : String) : Bool := text.toList.all isBlank

end Interception.Text
