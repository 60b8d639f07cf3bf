/-!
# Blank characters

The characters that count as space between words: the `White_Space` property of
Unicode, twenty-five code points in ten runs.  Zero-width characters, the
information separators `U+001C` to `U+001F` and the byte order mark do *not*
have the property, however blank they look, and so are ordinary text here.

Two things are built on the property: `trim`, which drops blanks at both ends of
a text, and the operand lexer, for which a blank is what never belongs to a token.
-/

namespace OperandSearch
namespace Text

/-- The runs of code points with the `White_Space` property, first and last of
each, in ascending order. -/
def blankRuns : List (Nat × Nat) :=
  [(0x09, 0x0D), (0x20, 0x20), (0x85, 0x85), (0xA0, 0xA0), (0x1680, 0x1680),
   (0x2000, 0x200A), (0x2028, 0x2029), (0x202F, 0x202F), (0x205F, 0x205F), (0x3000, 0x3000)]

/-- Whether a character is blank. -/
def isBlank (c : Char) : Bool :=
  blankRuns.any fun run => run.1 ≤ c.toNat && c.toNat ≤ run.2

/-- Drops the longest run at the end whose characters all satisfy `p`. -/
def dropTrailing (p : Char → Bool) (cs : List Char) : List Char :=
  (cs.reverse.dropWhile p).reverse

/-- Drops the blanks at both ends. -/
def trimChars (cs : List Char) : List Char :=
  dropTrailing isBlank (cs.dropWhile isBlank)

/-- A text without the blanks at its two ends. -/
def trim (s : String) : String :=
  String.ofList (trimChars s.toList)

end Text
end OperandSearch
