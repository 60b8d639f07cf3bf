import OperandSearch.Command

/-!
# The search command

The command asks for a value, searches the view for it and shows the report.  What an
answer leads to is a function of the answer, the policy and the listing (`outcome`); the
rest of this module says in which order things are asked, shown and reported.

Nothing is shown for an answer that is no value.  A failure is told to the analyst, in the
last dialog of the command, and returned as well.
-/

namespace OperandSearch
namespace SearchCommand

/-- The name of the command, which also titles its dialogs. -/
def name : String := "Search Immediate"

/-- What the command is for. -/
def description : String := "Search for the specific value in the instruction operands."

/-- What the analyst is asked for. -/
def prompt : String := "Value to search"

/-- What an answer leads to. -/
inductive Outcome where
  /-- The analyst did not answer. -/
  | cancelled
  /-- The answer is no value. -/
  | rejected (failure : Failure)
  | found (report : Report)
  deriving DecidableEq, Repr

/-- What an answer leads to on a listing. -/
def outcome (policy : Policy) (functions : List Function) : Option String → Outcome
  | none => .cancelled
  | some answer =>
    match Immediate.ofAnswer answer with
    | .error failure => .rejected failure
    | .ok value => .found { value, results := Match.lookup policy value functions }

/-- What is reported about the search of a listing. -/
def scanned (functions : List Function) (report : Report) : LogRecord where
  level := .debug
  source := .search
  message :=
    "Scanned " ++ Numeral.decimal (Function.instructionTotal functions) ++ " instructions in " ++
      Numeral.decimal functions.length ++ " functions, " ++
      Numeral.decimal report.results.length ++ " match " ++ Numeral.word report.value

/-- What is reported about the result of a search. -/
def counted (report : Report) : LogRecord where
  level := .info
  source := .command
  message :=
    "Found " ++ Numeral.decimal report.results.length ++ " instructions using " ++
      Numeral.word report.value

/-- What is reported if the analyst does not answer. -/
def cancelledRecord : LogRecord where
  level := .debug
  source := .command
  message := "Search cancelled"

/-- What is reported about a failure. -/
def failedRecord (failure : Failure) : LogRecord where
  level := .error
  source := .command
  message := name ++ ": " ++ failure.message

variable {m : Type → Type} [Monad m]

/-- Asks, searches and shows.  There is no report if the analyst cancels. -/
def run (journal : Journal m) (dialogs : Dialogs m) (policy : Policy) (view : View m) :
    m (Except Failure (Option Report)) := do
  match outcome policy view.functions (← dialogs.ask prompt name) with
  | .cancelled =>
    journal cancelledRecord
    return .ok none
  | .rejected failure => return .error failure
  | .found report =>
    journal (scanned view.functions report)
    journal (counted report)
    match ← view.showReport report with
    | .ok () => return .ok (some report)
    | .error failure => return .error failure

/-- Runs the search; the analyst is told of a failure. -/
def act (journal : Journal m) (dialogs : Dialogs m) (policy : Policy) (view : View m) :
    m (Except Failure Unit) := do
  match ← run journal dialogs policy view with
  | .ok _ => return .ok ()
  | .error failure =>
    journal (failedRecord failure)
    dialogs.tell name failure.message
    return .error failure

/-- The search as a command, which is valid for every view. -/
def command (journal : Journal m) (dialogs : Dialogs m) (policy : Policy) : Command m where
  isValid _ := return true
  act := act journal dialogs policy

/-- The search under its own name. -/
def registered (journal : Journal m) (dialogs : Dialogs m) (policy : Policy) :
    RegisteredCommand m where
  name
  description
  command := command journal dialogs policy

end SearchCommand
end OperandSearch
