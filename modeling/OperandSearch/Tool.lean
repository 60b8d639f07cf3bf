import OperandSearch.Command.Search
import OperandSearch.Console.Dialogs
import OperandSearch.Console.Sink
import OperandSearch.Log.Filter
import OperandSearch.Text.Duration
import OperandSearch.Tool.Arguments

/-!
# The command line tool

One run of the tool: the arguments are read, the binary is loaded, the search command is
registered and executed, and the outcome becomes an exit code.  A cancelled search is no
failure.  A failure is printed with the chain of its causes, after everything else.

The records of the journal go to the stream of messages, as far as the filter shows them.
A filter that is given from outside takes the place of the one that the arguments choose,
if it is well written.
-/

namespace OperandSearch
namespace Tool

/-- The filter of a run. -/
def filter (debug : Bool) (given : Option String) : LogFilter :=
  (given.bind LogFilter.ofText?).getD (.level (if debug then .debug else .info))

/-- What is reported about a binary that was loaded. -/
def loadedRecord (path : String) (binary : Binary) (nanoseconds : Nat) : LogRecord where
  level := .info
  source := .loader
  message :=
    "Loaded " ++ path ++ ": " ++ binary.architecture.name ++ ", " ++
      Numeral.decimal binary.functions.length ++ " functions, " ++
      Numeral.decimal (Function.instructionTotal binary.functions) ++ " instructions in " ++
      Text.duration nanoseconds

/-- What is reported about a command that is there. -/
def commandRecord (name description : String) : LogRecord where
  level := .debug
  source := .tool
  message := name ++ ": " ++ description

/-- The causes below a failure, one a line.  Several are numbered. -/
def causeLines (causes : List String) : String :=
  match causes with
  | [cause] => "    " ++ cause ++ "\n"
  | _ => String.join ((List.range causes.length).zipWith
      (fun i cause => "    " ++ Numeral.decimal i ++ ": " ++ cause ++ "\n") causes)

/-- A failure with its causes, as it is printed in the end. -/
def failureText (top : String) (causes : List String) : String :=
  "Error: " ++ top ++ "\n" ++
    if causes.isEmpty then "" else "\nCaused by:\n" ++ causeLines causes

variable {m : Type → Type} [Monad m]

/-- The journal of a run. -/
def journal (terminal : Terminal m) (filter : LogFilter) : Journal m := fun record =>
  if filter.shows record then terminal.complain (record.line ++ "\n") else pure ()

/-- Loads the binary at a path, with a loader. -/
def loadWith (loader : Loader) (terminal : Terminal m) (journal : Journal m) (path : String) :
    m (Except Failure Binary) := do
  let started ← terminal.clock
  match ← terminal.mapFile path with
  | .error fault => return .error (.file fault)
  | .ok file =>
    let (records, result) := Binary.ofFileWith loader file
    journal.all records
    match result with
    | .error failure => return .error failure
    | .ok binary =>
      journal (loadedRecord path binary ((← terminal.clock) - started))
      return .ok binary

/-- Loads the binary at a path. -/
def load (terminal : Terminal m) (journal : Journal m) (path : String) :
    m (Except Failure Binary) :=
  loadWith .builtIn terminal journal path

/-- Registers the search command in a new registry. -/
def register (terminal : Terminal m) (journal : Journal m) (preset : Option String)
    (policy : Policy) : m (CommandRegistry m) := do
  let empty : CommandRegistry m := {}
  let entry := SearchCommand.registered journal (Console.dialogs terminal preset) policy
  journal.all (empty.registerRecords entry.name)
  return empty.register entry

/-- Loads the binary and searches it.  The exit code is zero, or one after a failure. -/
def searchWith (loader : Loader) (terminal : Terminal m) (journal : Journal m)
    (args : Arguments) : m UInt32 := do
  let fail (top : String) (causes : List String) : m UInt32 := do
    terminal.complain (failureText top causes)
    return 1
  match ← loadWith loader terminal journal args.binary with
  | .error failure =>
    fail ("Failed to load " ++ args.binary) (failure.message :: failure.cause?.toList)
  | .ok binary =>
    let registry ← register terminal journal args.value args.policy
    registry.commands.forM fun entry => journal (commandRecord entry.name entry.description)
    let view := args.sink.view terminal journal binary.functions
    match ← registry.execute journal SearchCommand.name view with
    | .error failure => fail failure.message failure.cause?.toList
    | .ok false =>
      fail ("Command " ++ Text.quoted SearchCommand.name ++ " could not be run") []
    | .ok true => return 0

/-- Runs the tool with a loader for the binary.  The exit code is two for arguments that ask for
nothing sensible.  Whether the help could be printed makes no difference. -/
def runWith (loader : Loader) (terminal : Terminal m) (arguments : List String)
    (filterText : Option String) : m UInt32 :=
  match Arguments.parse arguments with
  | .error .help => do
    let _ ← terminal.print Arguments.help
    return 0
  | .error _ => return 2
  | .ok args =>
    searchWith loader terminal (journal terminal (filter args.debug filterText)) args

/-- Runs the tool. -/
def run (terminal : Terminal m) (arguments : List String) (filterText : Option String) :
    m UInt32 :=
  runWith .builtIn terminal arguments filterText

end Tool
end OperandSearch
