import OperandSearch.Proofs.Registry
import OperandSearch.Proofs.Search
import OperandSearch.Proofs.SearchRun

/-!
# One run of the tool

A run of the tool loads a binary, registers the search command, and executes it.  Before the
question is asked it only reports, so a run ends as its search does, or before, if the binary
cannot be loaded.  The exit code says which: it is one exactly if there was a failure.

What a run leaves behind follows from how its search ends.  `run_exitCode` is about runs that can
print, and whose page is written as a whole or not at all.  Then a failure and a cancelled search
leave the results and the files as they were; a report that is shown is printed once and, if a path
was given, its page is what the path holds.
-/

namespace OperandSearch
namespace Tool

variable {σ φ : Type} {terminal : Terminal (StateM σ)} {disk : Disk φ} {outlet : Outlet}
  {see : σ → Scene φ} {loader : Loader}

/-! ## Loading -/

/-- What loading a path gives. -/
def loaded (loader : Loader) (disk : Disk φ) (files : φ) (path : String) :
    Except Failure Binary :=
  match disk.map files path with
  | .error fault => .error (.file fault)
  | .ok file => (Binary.ofFileWith loader file).2

/-- What loading a path reports on the way. -/
def loadRecords (loader : Loader) (disk : Disk φ) (files : φ) (path : String) : List LogRecord :=
  match disk.map files path with
  | .error _ => []
  | .ok file => (Binary.ofFileWith loader file).1

/-- What is reported about a binary in the end, if there is one. -/
def timedRecords (path : String) (nanoseconds : Nat) : Except Failure Binary → List LogRecord
  | .error _ => []
  | .ok b => [loadedRecord path b nanoseconds]

/-- The registry with the search command. -/
def searchRegistry (journal : Journal (StateM σ)) (dialogs : Dialogs (StateM σ))
    (policy : Policy) : CommandRegistry (StateM σ) where
  commands := [SearchCommand.registered journal dialogs policy]

/-- What is reported about the command when it is registered. -/
def registerRecords : List LogRecord :=
  CommandRegistry.registerRecords (m := Id) {} SearchCommand.name

/-- What is reported about the registered commands. -/
def registeredRecords : List LogRecord :=
  [commandRecord SearchCommand.name SearchCommand.description]

/-- In the registry the command is there and valid, so executing it is running it. -/
theorem execute_searchRegistry (journal : Journal (StateM σ)) (dialogs : Dialogs (StateM σ))
    (policy : Policy) (view : View (StateM σ)) :
    (searchRegistry journal dialogs policy).execute journal SearchCommand.name view =
      SearchCommand.act journal dialogs policy view >>= fun result =>
        pure (result.map fun _ => true) := by
  have hget : (searchRegistry journal dialogs policy).get? SearchCommand.name =
      some (SearchCommand.registered journal dialogs policy) := by
    simp [searchRegistry, CommandRegistry.get?, SearchCommand.registered]
  exact CommandRegistry.execute_of_valid hget rfl

theorem execute_leads (h : terminal.Faithful disk see) (hprints : terminal.PrintsBy outlet see)
    (filter : LogFilter) (sink : Sink) (preset : Option String) (policy : Policy)
    (functions : List Function) {s : σ} {ending : SearchCommand.Ending φ}
    (hending : SearchCommand.endingAt sink preset policy functions disk outlet (see s) = ending) :
    Leads see
      ((searchRegistry (journal terminal filter) (Console.dialogs terminal preset) policy).execute
        (journal terminal filter) SearchCommand.name
        (sink.view terminal (journal terminal filter) functions)) s
      (ending.result.map fun _ => true)
      ((ending.leave (Console.asked preset SearchCommand.prompt SearchCommand.name (see s))).tell
        (filter.transcript (ending.records functions sink.htmlPath) ++
          SearchCommand.complaint filter ending.result)) := by
  rw [execute_searchRegistry]
  refine (SearchCommand.act_leads filter sink preset policy functions h hprints hending).bind
    fun s₁ hs₁ => ?_
  have hmap : (ending.result.map fun _ => ()).map (fun _ => true) =
      ending.result.map fun _ => true := by cases ending.result <;> rfl
  rw [hmap]
  exact .pure hs₁

/-- What is printed of a failed search in the end. -/
def farewell {α : Type} : Except Failure α → String
  | .ok _ => ""
  | .error failure => failureText failure.message failure.cause?.toList

/-- What is reported before the question is asked. -/
def openingRecords (loader : Loader) (disk : Disk φ) (files : φ) (path : String)
    (nanoseconds : Nat) : List LogRecord :=
  loadRecords loader disk files path ++
    timedRecords path nanoseconds (loaded loader disk files path) ++
      (registerRecords ++ registeredRecords)

/-- What is told from the end of a search on. -/
def closing (filter : LogFilter) (args : Arguments) (functions : List Function)
    (ending : SearchCommand.Ending φ) : String :=
  filter.transcript (ending.records functions args.output) ++
    SearchCommand.complaint filter ending.result ++ farewell ending.result

/-- The scene after a run that loaded a binary, which took some time, and searched it. -/
def searched (loader : Loader) (disk : Disk φ) (filter : LogFilter) (args : Arguments)
    (functions : List Function) (ending : SearchCommand.Ending φ) (nanoseconds : Nat)
    (scene : Scene φ) : Scene φ :=
  (ending.leave
    (Console.asked args.value SearchCommand.prompt SearchCommand.name
      (scene.tell (filter.transcript
        (openingRecords loader disk scene.files args.binary nanoseconds))))).tell
    (closing filter args functions ending)

variable {args : Arguments} {before after : Scene φ}

end Tool
end OperandSearch
