import OperandSearch.Text.Blank
import OperandSearch.Text.Numeral

/-!
# Values as an analyst types them

An immediate is a 64-bit value.  The text for one may be surrounded by blanks; it
is an optional sign, an optional `0x` or `0X` that selects hexadecimal, and digits
of the radix in which single underscores may separate digits.  A negative value is
stored in two's complement, which is how a negative operand is stored in a token,
so that what was typed and what was decoded can be compared as words.

Reading is done in two steps.  `Spelling.ofChars` takes the text apart, which
cannot fail; `Spelling.value` judges the parts, in a fixed order of complaints:
no digits at all, then a separator out of place, then a second sign, then what
reading the digits finds, and last a negative value out of range.
-/

namespace OperandSearch
namespace Immediate

/-- Why a text is no immediate. -/
inductive Reason where
  /-- Nothing is left after sign and radix. -/
  | noDigits
  /-- An underscore stands first, last or beside another. -/
  | misplacedSeparator
  /-- A second sign, or a sign behind the radix. -/
  | unexpectedSign
  /-- A character is no digit of the radix. -/
  | invalidDigit
  /-- The magnitude needs more than 64 bits. -/
  | tooLarge
  /-- The value is negative and below `-2 ^ 63`. -/
  | tooSmall
  deriving DecidableEq, Repr

/-- The wording of a reason. -/
def Reason.text : Reason → String
  | noDigits => "no digits"
  | misplacedSeparator => "misplaced digit separator"
  | unexpectedSign => "unexpected sign"
  | invalidDigit => "invalid digit found in string"
  | tooLarge => "number too large to fit in target type"
  | tooSmall => "number too small to fit in target type"

/-- The complaint that a fault in the digits turns into. -/
def Reason.ofFault : Numeral.Fault → Reason
  | .invalidDigit => invalidDigit
  | .overflow => tooLarge

/-- The parts of a text without its blanks: sign, radix, and all the rest. -/
structure Spelling where
  negative : Bool
  radix : Radix
  digits : List Char
  deriving DecidableEq, Repr

namespace Spelling

/-- Splits off one leading sign; true means minus. -/
def splitSign : List Char → Bool × List Char
  | '-' :: cs => (true, cs)
  | '+' :: cs => (false, cs)
  | cs => (false, cs)

/-- Splits off a leading `0x` or `0X`. -/
def splitRadix : List Char → Radix × List Char
  | '0' :: 'x' :: cs => (.hexadecimal, cs)
  | '0' :: 'X' :: cs => (.hexadecimal, cs)
  | cs => (.decimal, cs)

/-- Takes a text without blanks at its ends apart. -/
def ofChars (cs : List Char) : Spelling :=
  let (negative, unsigned) := splitSign cs
  let (radix, digits) := splitRadix unsigned
  { negative, radix, digits }

end Spelling

/-- Whether two underscores stand side by side. -/
def hasDoubleSeparator : List Char → Bool
  | '_' :: '_' :: _ => true
  | _ :: cs => hasDoubleSeparator cs
  | [] => false

/-- Whether an underscore stands where it separates no two digits. -/
def separatorMisplaced (digits : List Char) : Bool :=
  digits.head? == some '_' || digits.getLast? == some '_' || hasDoubleSeparator digits

/-- Whether the digits start with a sign. -/
def startsWithSign (digits : List Char) : Bool :=
  digits.head? == some '+' || digits.head? == some '-'

/-- The word that stores a magnitude with a sign: two's complement for minus. -/
def store (negative : Bool) (magnitude : Nat) : UInt64 :=
  if negative then -UInt64.ofNat magnitude else UInt64.ofNat magnitude

/-- The value of a text that was taken apart. -/
def Spelling.value (s : Spelling) : Except Reason UInt64 :=
  if s.digits.isEmpty then .error .noDigits
  else if separatorMisplaced s.digits then .error .misplacedSeparator
  else if startsWithSign s.digits then .error .unexpectedSign
  else match Numeral.read s.radix (s.digits.filter (· != '_')) with
    | .error fault => .error (.ofFault fault)
    | .ok magnitude =>
      if s.negative && magnitude > UInt64.size / 2 then .error .tooSmall
      else .ok (store s.negative magnitude)

/-- The value of a text, given as its characters. -/
def parseChars (cs : List Char) : Except Reason UInt64 :=
  (Spelling.ofChars (Text.trimChars cs)).value

/-- The value of a text. -/
def parse (s : String) : Except Reason UInt64 :=
  parseChars s.toList

end Immediate
end OperandSearch
