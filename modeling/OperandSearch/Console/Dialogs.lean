import OperandSearch.Bytes
import OperandSearch.Command
import OperandSearch.Console.Terminal
import OperandSearch.Text.Blank

/-!
# Dialogs on a console

A question is answered by a value that was given beforehand, if there is one, and
otherwise by the next line of input.  The end of the input, or a line that is no text,
cancels; in either case the line is used up, so the next question gets the line behind it.
A line loses the carriage returns and line feeds at its end and nothing else.
-/

namespace OperandSearch
namespace Console

/-- The answer that a line of input gives, if it is text. -/
def answerOfLine (line : List UInt8) : Option String :=
  (Bytes.text? line).map fun text =>
    String.ofList (Text.dropTrailing (fun c => c == '\r' || c == '\n') text.toList)

variable {m : Type → Type} [Monad m]

/-- Asks a question; an answer given beforehand asks nobody. -/
def ask (terminal : Terminal m) (preset : Option String) (prompt title : String) :
    m (Option String) :=
  match preset with
  | some answer => return some answer
  | none => do
    terminal.complain (title ++ " - " ++ prompt ++ ": ")
    return (← terminal.readLine).bind answerOfLine

/-- The dialogs of a console. -/
def dialogs (terminal : Terminal m) (preset : Option String) : Dialogs m where
  ask := ask terminal preset
  tell title text := terminal.complain (title ++ ": " ++ text ++ "\n")

end Console
end OperandSearch
