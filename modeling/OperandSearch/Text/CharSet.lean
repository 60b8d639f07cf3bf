import OperandSearch.Text.Blank
import OperandSearch.Text.Category

/-!
# Sets of characters

A set is described by spans of code points, by the classes that have tables of their own,
and by operations on sets.  Whether a character is in a set follows the description.

Case matters only where a set asks to be read without it, and then only for letters of
ASCII and the two signs beyond it that are forms of such letters.
-/

namespace OperandSearch
namespace Text

/-- The same letter in the other case, for the letters of ASCII and the two signs beyond
it that are other forms of one. -/
def caseVariants (c : Char) : List Char :=
  let kelvin := Char.ofNat 0x212A
  let longS := Char.ofNat 0x17F
  if c = 'k' ∨ c = 'K' ∨ c = kelvin then ['k', 'K', kelvin]
  else if c = 's' ∨ c = 'S' ∨ c = longS then ['s', 'S', longS]
  else [c, c.toLower, c.toUpper]

/-- A set of characters. -/
inductive CharSet where
  | nothing
  | span (first last : Char)
  | word
  | digit
  | blank
  | category (k : Category)
  /-- The characters of several runs of code points. -/
  | runs (list : List (Nat × Nat))
  | union (a b : CharSet)
  | inter (a b : CharSet)
  | diff (a b : CharSet)
  | compl (a : CharSet)
  /-- The characters of a set and their forms in the other case. -/
  | caseless (a : CharSet)
  deriving DecidableEq, Repr

namespace CharSet

/-- Whether a character is in a set. -/
def contains : CharSet → Char → Bool
  | nothing, _ => false
  | span first last, c => first ≤ c && c ≤ last
  | word, c => isWordChar c
  | digit, c => isDecimalDigit c
  | blank, c => isBlank c
  | category k, c => k.contains c
  | runs list, c => inRuns list c.toNat
  | union a b, c => a.contains c || b.contains c
  | inter a b, c => a.contains c && b.contains c
  | diff a b, c => a.contains c && !b.contains c
  | compl a, c => !a.contains c
  | caseless a, c => (caseVariants c).any fun variant => a.contains variant

/-- The set of one character. -/
def single (c : Char) : CharSet :=
  span c c

/-- The characters that are in one of several sets. -/
def unions (sets : List CharSet) : CharSet :=
  sets.foldr .union .nothing

/-- The characters of several spans. -/
def spans (list : List (Char × Char)) : CharSet :=
  unions (list.map fun span => .span span.1 span.2)

/-- The characters of several categories. -/
def categories (list : List Category) : CharSet :=
  unions (list.map .category)

/-- The characters that are in one of two sets, but not in both. -/
def symmDiff (a b : CharSet) : CharSet :=
  union (diff a b) (diff b a)

/-- How many states it takes to tell the characters of a set by their bytes, roughly: one for
a span of ASCII, and two for each run beyond it. -/
def weight : CharSet → Nat
  | nothing => 1
  | span _ _ => 1
  | word => 2 * wordRuns.length
  | digit => digitRuns.length
  | blank => blankRuns.length
  | category k => 2 * (k.runs.length + k.alternating.length)
  | runs list => 2 * list.length
  | union a b => a.weight + b.weight
  | inter a b => a.weight + b.weight
  | diff a b => a.weight + b.weight
  | compl a => a.weight + 10
  | caseless a => a.weight + 1

end CharSet
end Text
end OperandSearch
