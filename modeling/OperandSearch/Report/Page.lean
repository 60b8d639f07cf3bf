import OperandSearch.Search
import OperandSearch.Text.Numeral

/-!
# The report as a page

The finds of a search as a static HTML table: address, function and instruction of
each find, a row per find in the order of the finds.  The names and instruction
texts come from the searched binary, so the five characters that could end a cell
or open a tag are written as entities; the markup itself is fixed.
-/

namespace OperandSearch
namespace Page

/-- A character inside a cell. -/
def escapeChar (c : Char) : List Char :=
  if c = '&' then "&amp;".toList
  else if c = '<' then "&lt;".toList
  else if c = '>' then "&gt;".toList
  else if c = '"' then "&quot;".toList
  else if c = '\'' then "&#39;".toList
  else [c]

/-- A text inside a cell. -/
def escape (cs : List Char) : List Char :=
  cs.flatMap escapeChar

/-- What stands before the rows. -/
def opening : List Char :=
  ("<!DOCTYPE html>\n" ++
    "<html>\n\t<body>\n" ++
    "\t\t<table>\n" ++
    "\t\t\t<tr>\n" ++
    "\t\t\t\t<th width=\"150\">Address</th>\n" ++
    "\t\t\t\t<th width=\"150\">Function</th>\n" ++
    "\t\t\t\t<th>Instruction</th>\n" ++
    "\t\t\t</tr>\n").toList

/-- What stands behind the rows. -/
def closing : List Char :=
  ("\t\t</table>\n" ++ "\t</body>\n</html>").toList

/-- What stands before the text of a cell. -/
def cellOpening : List Char := "\t\t\t\t<td><pre>".toList

/-- What stands behind the text of a cell. -/
def cellClosing : List Char := "</pre></td>\n".toList

/-- A cell with a text that needs no further escaping. -/
def cell (content : List Char) : List Char :=
  cellOpening ++ content ++ cellClosing

/-- What stands before the cells of a row. -/
def rowOpening : List Char := "\t\t\t<tr>\n".toList

/-- What stands behind the cells of a row. -/
def rowClosing : List Char := "\t\t\t</tr>\n".toList

/-- The row of a find. -/
def row (found : Match) : List Char :=
  rowOpening ++ cell (Numeral.address found.address).toList ++
    cell (escape found.function.toList) ++ cell (escape found.instruction.toList) ++ rowClosing

/-- The page of a list of finds, as characters. -/
def renderChars (results : List Match) : List Char :=
  opening ++ results.flatMap row ++ closing

/-- The page of a list of finds. -/
def render (results : List Match) : String :=
  String.ofList (renderChars results)

end Page
end OperandSearch
