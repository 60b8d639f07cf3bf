import OperandSearch.Search
import OperandSearch.Text.Numeral

/-!
# The report as a table of text

The finds of a search in three columns for a terminal.  The address column is
eighteen characters wide, which is what an address takes; the function column is as
wide as the longest name, counted in characters, and at least as wide as its
heading; the instruction column ends the line.  Two spaces stand between columns.  A
column can be as wide as its names ask for; a limit on widths is left out.
-/

namespace OperandSearch
namespace Table

/-- A text made at least `width` characters long by spaces behind it. -/
def padRight (width : Nat) (cs : List Char) : List Char :=
  cs ++ List.replicate (width - cs.length) ' '

/-- The width of the function column. -/
def nameWidth (results : List Match) : Nat :=
  (results.map fun found => found.function.toList.length).foldl max "Function".length

/-- A line of three columns. -/
def line (width : Nat) (address function instruction : List Char) : List Char :=
  padRight 18 address ++ [' ', ' '] ++ padRight width function ++ [' ', ' '] ++ instruction ++
    ['\n']

/-- The line of headings. -/
def heading (width : Nat) : List Char :=
  line width "Address".toList "Function".toList "Instruction".toList

/-- The line of a find. -/
def row (width : Nat) (found : Match) : List Char :=
  line width (Numeral.address found.address).toList found.function.toList
    found.instruction.toList

/-- The table of a list of finds, as characters. -/
def renderChars (results : List Match) : List Char :=
  heading (nameWidth results) ++ results.flatMap (row (nameWidth results))

/-- The table of a list of finds. -/
def render (results : List Match) : String :=
  String.ofList (renderChars results)

end Table
end OperandSearch
