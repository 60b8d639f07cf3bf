import OperandSearch.Text.CharSet

/-!
# Patterns of text

A pattern is a regular expression over characters.  A text holds a pattern if some
stretch of it has the form that the pattern describes.

Finding it needs no search with second thoughts.  The places of a text, one before each
character and one at the end, are marked or not, and a pattern moves the marks: from the
places where a stretch could start to the places where it could end.  A part that may be
repeated moves them until nothing new is marked, which takes no more rounds than there
are places.
-/

namespace OperandSearch
namespace Text

/-! ## Places between characters -/

/-- What a pattern can ask of a place. -/
inductive Edge where
  | textStart
  | textEnd
  | lineStart
  | lineEnd
  | wordStart
  | wordEnd
  /-- No character of a word stands in front. -/
  | wordStartHalf
  /-- No character of a word stands behind. -/
  | wordEndHalf
  /-- A word starts or ends here. -/
  | boundary
  | noBoundary
  deriving DecidableEq, Repr

/-- Whether a place between two characters is as an edge asks; there is no character in
front of the first place and none behind the last. -/
def Edge.holds (edge : Edge) (before after : Option Char) : Bool :=
  let inWord (c : Option Char) : Bool := c.any isWordChar
  match edge with
  | textStart => before.isNone
  | textEnd => after.isNone
  | lineStart => before.isNone || before == some '\n'
  | lineEnd => after.isNone || after == some '\n'
  | wordStart => !inWord before && inWord after
  | wordEnd => inWord before && !inWord after
  | wordStartHalf => !inWord before
  | wordEndHalf => !inWord after
  | boundary => inWord before != inWord after
  | noBoundary => inWord before == inWord after

/-! ## Patterns -/

/-- A pattern. -/
inductive Pattern where
  | empty
  | one (set : CharSet)
  | edge (edge : Edge)
  | sequence (first second : Pattern)
  | either (left right : Pattern)
  /-- A part at least `least` times in a row, and at most `most` times if there is such a
  number. -/
  | repeated (part : Pattern) (least : Nat) (most : Option Nat)
  deriving DecidableEq, Repr

namespace Pattern

/-- The places that one of two lists marks. -/
def join (a b : List Bool) : List Bool :=
  a.zipWith (· || ·) b

/-- The places that at most so many steps reach. -/
def reach (step : List Bool → List Bool) : Nat → List Bool → List Bool
  | 0, marks => marks
  | rounds + 1, marks =>
    let next := join marks (step marks)
    if next = marks then marks else reach step rounds next

/-- The places that exactly so many steps reach. -/
def after (step : List Bool → List Bool) : Nat → List Bool → List Bool
  | 0, marks => marks
  | rounds + 1, marks => after step rounds (step marks)

/-- The places of a text with what stands in front of them and behind them. -/
def places (text : List Char) : List (Option Char × Option Char) :=
  (none :: text.map some).zip (text.map some ++ [none])

/-- Moves marks: where a stretch of this form ends that starts at a marked place. -/
def advance (text : List Char) : Pattern → List Bool → List Bool
  | empty, marks => marks
  | one set, marks => false :: text.zipWith (fun c mark => mark && set.contains c) marks
  | edge e, marks => (places text).zipWith (fun place mark => mark && e.holds place.1 place.2) marks
  | sequence first second, marks => second.advance text (first.advance text marks)
  | either left right, marks => join (left.advance text marks) (right.advance text marks)
  | repeated part least most, marks =>
    let rounds := match most with
      | some most => most - least
      | none => text.length
    reach (part.advance text) rounds (after (part.advance text) least marks)

/-- Whether a text holds a stretch of this form. -/
def occursIn (pattern : Pattern) (text : List Char) : Bool :=
  (pattern.advance text (true :: text.map fun _ => true)).any id

/-- How many parts a pattern comes to when its repetitions are written out and its sets are
spelt in bytes. -/
def weight : Pattern → Nat
  | empty => 1
  | one set => set.weight
  | edge _ => 1
  | sequence first second => first.weight + second.weight
  | either left right => left.weight + right.weight + 1
  | repeated part least most => part.weight * max (least + 1) (most.getD 1) + 1

end Pattern
end Text
end OperandSearch
