import OperandSearch.Failure
import OperandSearch.Log
import OperandSearch.Report

/-!
# Commands and their registry

A command works on a view of a binary and talks to the analyst through dialogs.  What a
view and its dialogs do when they are used is up to whoever provides them, so both are
records of actions in a monad `m`: a program that prints, a script of answers with a list
of events, or any state a theorem speaks of.

The registry keeps commands by name in the order of their registration.  A name is there
once: registering it again removes the earlier command and puts the new one at the end.
-/

namespace OperandSearch

/-- A binary as commands see it. -/
structure View (m : Type → Type) where
  functions : List Function
  /-- Shows a page, or its text where pages cannot be shown. -/
  showPage : (title html plaintext : String) → m (Except Failure Unit)
  /-- Shows a finished search.  A view that has nothing better shows the page. -/
  showReport : Report → m (Except Failure Unit) := fun report =>
    showPage report.title report.html report.plaintext

/-- The dialogs with the analyst. -/
structure Dialogs (m : Type → Type) where
  /-- Asks for a line of text; none if the analyst cancels. -/
  ask : (prompt title : String) → m (Option String)
  /-- Shows a message. -/
  tell : (title text : String) → m Unit

/-- How records of the journal are kept. -/
abbrev Journal (m : Type → Type) := LogRecord → m Unit

/-- Keeps several records, in their order. -/
def Journal.all {m : Type → Type} [Monad m] (journal : Journal m) (records : List LogRecord) :
    m Unit :=
  records.forM journal

/-- Something that can be done with a view.  Whether it can be done is a question to the command,
which may look at the view and keep a state of its own. -/
structure Command (m : Type → Type) where
  isValid : View m → m Bool
  act : View m → m (Except Failure Unit)

/-- A command under its name. -/
structure RegisteredCommand (m : Type → Type) where
  name : String
  description : String
  command : Command m

/-- The commands that can be run, in the order of their registration. -/
structure CommandRegistry (m : Type → Type) where
  commands : List (RegisteredCommand m) := []

namespace CommandRegistry

variable {m : Type → Type}

/-- A record about commands. -/
def record (level : LogLevel) (message : String) : LogRecord where
  level
  source := .command
  message

/-- The command of a name. -/
def get? (registry : CommandRegistry m) (name : String) : Option (RegisteredCommand m) :=
  registry.commands.find? fun entry => entry.name == name

/-- The registry after a command has been registered. -/
def register (registry : CommandRegistry m) (entry : RegisteredCommand m) :
    CommandRegistry m where
  commands := registry.commands.eraseP (fun other => other.name == entry.name) ++ [entry]

/-- What is reported when a command is registered. -/
def registerRecords (registry : CommandRegistry m) (name : String) : List LogRecord :=
  let replaced :=
    if (registry.get? name).isSome then
      [record .warn ("Replacing already registered command " ++ Text.quoted name)]
    else []
  replaced ++ [record .debug ("Registering command " ++ Text.quoted name)]

/-- Runs the command of a name on a view.  The answer is false if there is none, or if it
is not valid for the view; the failure of a command is passed on. -/
def execute [Monad m] (registry : CommandRegistry m) (journal : Journal m) (name : String)
    (view : View m) : m (Except Failure Bool) :=
  match registry.get? name with
  | none => do
    journal (record .error ("Unknown command: " ++ Text.quoted name))
    return .ok false
  | some entry => do
    if ← entry.command.isValid view then
      match ← entry.command.act view with
      | .ok () => return .ok true
      | .error failure => return .error failure
    else
      journal (record .warn ("Command " ++ Text.quoted name ++ " is not valid for this view"))
      return .ok false

end CommandRegistry
end OperandSearch
