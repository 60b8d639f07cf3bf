import OperandSearch.Document
import OperandSearch.Report.Page
import OperandSearch.Report.Table

/-!
# Reports

A report is the value that was looked for together with the finds.  Everything that
can be displayed is a function of these two: the title, the page, the table and the
document.  A report therefore cannot disagree with itself.
-/

namespace OperandSearch

/-- The outcome of a search. -/
structure Report where
  value : UInt64
  results : List Match
  deriving DecidableEq, Repr

namespace Report

/-- The title: the value in upper-case hexadecimal without padding. -/
def title (report : Report) : String :=
  "Search immediate - 0x" ++ Numeral.hexUpper report.value.toNat

/-- The finds as a page. -/
def html (report : Report) : String :=
  Page.render report.results

/-- The finds as a table of text. -/
def plaintext (report : Report) : String :=
  Table.render report.results

/-- A find as a document. -/
def findDocument (found : Match) : Document :=
  .object [("address", .text (Numeral.word found.address)), ("function", .text found.function),
    ("instruction", .text found.instruction)]

/-- The report as a document: how many finds there are, the finds, and the value. -/
def document (report : Report) : Document :=
  .object [("count", .number report.results.length),
    ("results", .list (report.results.map findDocument)),
    ("value", .text (Numeral.word report.value))]

end Report
end OperandSearch
