import OperandSearch.Text.Hidden
import OperandSearch.Text.Numeral

/-!
# Quoted text in messages

A message that repeats what the analyst typed puts it between double quotes and
makes every character of it visible.  A quote, a backslash and the four usual
controls get a backslash escape; any other character without a shape of its own
(`Text.Hidden`) is written by its code point; all else stands for itself.  The
apostrophe is not escaped, because the quotes around it are double.
-/

namespace OperandSearch
namespace Text

/-- A character inside a quoted text. -/
def quotedChar (c : Char) : List Char :=
  if c = '\x00' then ['\\', '0']
  else if c = '\t' then ['\\', 't']
  else if c = '\n' then ['\\', 'n']
  else if c = '\r' then ['\\', 'r']
  else if c = '"' then ['\\', '"']
  else if c = '\\' then ['\\', '\\']
  else if isHidden c then ['\\', 'u', '{'] ++ Nat.toDigits 16 c.toNat ++ ['}']
  else [c]

/-- A text between double quotes, every character of it visible. -/
def quoted (s : String) : String :=
  "\"" ++ String.ofList (s.toList.flatMap quotedChar) ++ "\""

end Text
end OperandSearch
