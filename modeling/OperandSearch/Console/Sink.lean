import OperandSearch.Binary
import OperandSearch.Command
import OperandSearch.Console.Terminal

/-!
# Where reports go

A report on a console goes to a file, as a page, and to the stream of results, as a table
or as a document.  The file is written first, and if that fails nothing is printed.  If it is
the printing that fails, the page has been replaced already.
-/

namespace OperandSearch

/-- Where reports go.  A document takes the place of the table. -/
structure Sink where
  htmlPath : Option String := none
  printPlaintext : Bool := false
  printJson : Bool := false
  deriving DecidableEq, Repr

namespace Sink

/-- What is reported about a file that was written. -/
def written (title path : String) : LogRecord where
  level := .info
  source := .display
  message := title ++ ": report written to " ++ path

variable {m : Type → Type} [Monad m]

/-- Writes a page to the file, if there is one. -/
def save (sink : Sink) (terminal : Terminal m) (journal : Journal m) (title html : String) :
    m (Except Failure Unit) :=
  match sink.htmlPath with
  | none => return .ok ()
  | some path => do
    match ← terminal.writeFile path html with
    | .error fault => return .error (.file fault)
    | .ok () =>
      journal (written title path)
      return .ok ()

/-- Prints a text, if there is one. -/
def publish (terminal : Terminal m) (text? : Option String) : m (Except Failure Unit) :=
  match text? with
  | none => return .ok ()
  | some text => do
    match ← terminal.print text with
    | .error fault => return .error (.file fault)
    | .ok () => return .ok ()

/-- Saves a page and prints a text, in this order. -/
def deliver (sink : Sink) (terminal : Terminal m) (journal : Journal m)
    (title html : String) (text? : Option String) : m (Except Failure Unit) := do
  match ← sink.save terminal journal title html with
  | .error failure => return .error failure
  | .ok () => publish terminal text?

/-- What is printed of a page. -/
def pageText (sink : Sink) (title plaintext : String) : Option String :=
  if sink.printPlaintext then some (title ++ "\n\n" ++ plaintext) else none

/-- What is printed of a report. -/
def reportText (sink : Sink) (report : Report) : Option String :=
  if sink.printJson then some (report.document.pretty ++ "\n")
  else sink.pageText report.title report.plaintext

/-- A listing as a view whose reports go to the sink. -/
def view (sink : Sink) (terminal : Terminal m) (journal : Journal m)
    (functions : List Function) : View m where
  functions
  showPage title html plaintext :=
    sink.deliver terminal journal title html (sink.pageText title plaintext)
  showReport report :=
    sink.deliver terminal journal report.title report.html (sink.reportText report)

end Sink
end OperandSearch
