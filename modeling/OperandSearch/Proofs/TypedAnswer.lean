import Mathlib.Data.Bool.AllAny
import OperandSearch.Proofs.InputLines
import OperandSearch.Proofs.ToolRun

/-!
# Answers that are typed, and answers that are given beforehand

A search gets the same answer whether a text was given to it beforehand or is typed on the next
line of the input.  The line is read as bytes and loses its end, but only its end: the text is not
trimmed, so an answer that is no value is repeated in the failure as it was meant, and a text that
is empty or blank is still an answer and no cancelled question.

The ending of a search depends on the answer, on the files and on the results
(`SearchCommand.endingAt`), so both searches have one ending, and what they leave differs in two
places: the line that was used up, and the question that was put (`Console.TypedAgrees`).  Both
print on one outlet, which may be any.
-/

namespace OperandSearch

namespace SearchCommand

/-- What is reported about a result in the end. -/
def failureRecords {α : Type} : Except Failure α → List LogRecord
  | .ok _ => []
  | .error failure => [failedRecord failure]

/-- The message that is shown about a result. -/
def messageBox {α : Type} : Except Failure α → String
  | .ok _ => ""
  | .error failure => name ++ ": " ++ failure.message ++ "\n"

/-- The message is about the failure alone. -/
theorem messageBox_map {α β : Type} (f : α → β) (result : Except Failure α) :
    messageBox (result.map f) = messageBox result := by
  cases result <;> rfl

/-- A failure is reported, and then the message about it is shown. -/
theorem complaint_eq {α : Type} (filter : LogFilter) (result : Except Failure α) :
    complaint filter result = filter.transcript (failureRecords result) ++ messageBox result := by
  cases result <;> rfl

end SearchCommand

namespace Console

variable {σ τ φ : Type} {disk : Disk φ} {outlet : Outlet}

/-! ## The line that is typed -/

/-- What a typed line can end with. -/
def IsLineEnd (ending : String) : Prop :=
  ending = "\n" ∨ ending = "\r\n"

/-- The input after a line was typed, with what is typed later. -/
def typed (text ending : String) (later : List UInt8) : List UInt8 :=
  Bytes.ofText (text ++ ending) ++ later

theorem nextLine_typed {text ending : String} (hline : '\n' ∉ text.toList)
    (hending : IsLineEnd ending) (later : List UInt8) :
    Scene.nextLine (typed text ending later) = (some (Bytes.ofText (text ++ ending)), later) := by
  have hfeed := Bytes.feed_notMem_ofText hline
  rw [typed, Bytes.ofText_append]
  rcases hending with rfl | rfl
  · have hbytes : Bytes.ofText "\n" = [Bytes.feed] := by decide +kernel
    rw [hbytes, List.append_assoc, List.singleton_append, nextLine_append_feed hfeed]
  · have hbytes : Bytes.ofText "\r\n" = [0x0d, Bytes.feed] := by decide +kernel
    have hfront : Bytes.feed ∉ Bytes.ofText text ++ [0x0d] := by
      rw [List.mem_append, not_or]
      exact ⟨hfeed, by decide⟩
    rw [hbytes, List.append_cons, List.append_assoc, List.singleton_append,
      nextLine_append_feed hfront]

/-- **A text that is typed is the answer**, as if it had been given beforehand. -/
theorem answer_typed {text ending : String} (hline : '\n' ∉ text.toList)
    (hreturn : '\r' ∉ text.toList.getLast?) (hending : IsLineEnd ending) (later : List UInt8) :
    answer none (typed text ending later) = some text := by
  have hends : ∀ c ∈ ending.toList, c = '\r' ∨ c = '\n' := by
    rcases hending with rfl | rfl <;> exact List.all_iff_forall_prop.mp (by decide)
  have hkept : ∀ c ∈ text.toList.getLast?, c ≠ '\r' ∧ c ≠ '\n' := by
    intro c hc
    constructor
    · rintro rfl
      exact hreturn hc
    · rintro rfl
      exact hline (List.mem_of_mem_getLast? hc)
  rw [answer, nextLine_typed hline hending]
  exact answers_iff.mp (.read hends hkept)

/-! ## Two searches -/

/-- What two searches leave that get the same answer, the first beforehand and the second on a line
that is typed. -/
structure TypedAgrees (before : Scene φ) (later : List UInt8) (said : String)
    (passed typed : Scene φ) : Prop where
  passed_input : passed.input = before.input
  typed_input : typed.input = later
  output_eq : typed.output = passed.output
  files_eq : typed.files = passed.files
  /-- The second search says what the first says, behind its question. -/
  passed_messages : passed.messages = before.messages ++ said
  typed_messages : typed.messages = before.messages ++
    (SearchCommand.name ++ " - " ++ SearchCommand.prompt ++ ": " ++ said)

theorem asked_given (given prompt title : String) (scene : Scene φ) :
    asked (some given) prompt title scene = scene := by
  rw [asked, question, Scene.tell_empty]
  rfl

/-- Two searches with one ending agree. -/
theorem typedAgrees_of_ending (ending : SearchCommand.Ending φ) (said : String) (before : Scene φ)
    {text lineEnd : String} (hline : '\n' ∉ text.toList) (hend : IsLineEnd lineEnd)
    (later : List UInt8) :
    TypedAgrees before later said
      ((ending.leave (asked (some text) SearchCommand.prompt SearchCommand.name before)).tell said)
      ((ending.leave (asked none SearchCommand.prompt SearchCommand.name
        { before with input := typed text lineEnd later })).tell said) := by
  have hunread : unread none (typed text lineEnd later) = later := by
    rw [unread, nextLine_typed hline hend]
  rw [asked_given]
  exact
    { passed_input := ending.input_leave before
      typed_input := (ending.input_leave _).trans hunread
      output_eq := ending.output_leave rfl
      files_eq := ending.files_leave rfl
      passed_messages := by rw [Scene.messages_tell, ending.messages_leave]
      typed_messages := by
        rw [Scene.messages_tell, ending.messages_leave]
        exact String.append_assoc .. }

variable {first : Terminal (StateM σ)} {second : Terminal (StateM τ)} {see : σ → Scene φ}
  {see' : τ → Scene φ}

/-- **Typing a text is giving it.**  Of two searches with the same sink, policy and listing, the
first has a text as its answer beforehand, and the second finds it on the next line of the input,
with its end.  Both give the same result, be it a report or a failure, and both executions of the
command do, which ends with the same message about a failure.  They leave the same results and the
same files, and tell the same, but for the question that is put to get the line. -/
theorem search_typed (hfirst : first.Faithful disk see) (hsecond : second.Faithful disk see')
    (hprints : first.PrintsBy outlet see) (hprints' : second.PrintsBy outlet see')
    {text lineEnd : String} (hline : '\n' ∉ text.toList) (hreturn : '\r' ∉ text.toList.getLast?)
    (hend : IsLineEnd lineEnd) (later : List UInt8) (filter : LogFilter) (sink : Sink)
    (policy : Policy) (functions : List Function) {s : σ} {t : τ} {before : Scene φ}
    (hs : see s = before) (ht : see' t = { before with input := typed text lineEnd later }) :
    (∃ result said passed typed,
      Leads see
        (SearchCommand.run (Tool.journal first filter) (dialogs first (some text)) policy
          (sink.view first (Tool.journal first filter) functions)) s result passed ∧
      Leads see'
        (SearchCommand.run (Tool.journal second filter) (dialogs second none) policy
          (sink.view second (Tool.journal second filter) functions)) t result typed ∧
      TypedAgrees before later said passed typed) ∧
    ∃ result reported passed typed,
      Leads see
        ((Tool.searchRegistry (Tool.journal first filter) (dialogs first (some text))
          policy).execute (Tool.journal first filter) SearchCommand.name
            (sink.view first (Tool.journal first filter) functions)) s result passed ∧
      Leads see'
        ((Tool.searchRegistry (Tool.journal second filter) (dialogs second none) policy).execute
          (Tool.journal second filter) SearchCommand.name
            (sink.view second (Tool.journal second filter) functions)) t result typed ∧
      TypedAgrees before later (reported ++ SearchCommand.messageBox result) passed typed := by
  obtain ⟨ending, hpassed⟩ : ∃ ending,
      SearchCommand.endingAt sink (some text) policy functions disk outlet (see s) = ending :=
    ⟨_, rfl⟩
  -- the ending depends on the answer, the files and the results, which are the same on both sides
  have htyped :
      SearchCommand.endingAt sink none policy functions disk outlet (see' t) = ending := by
    rw [← hpassed, hs, ht, SearchCommand.endingAt, answer_typed hline hreturn hend]
    rfl
  have hagrees (said : String) := typedAgrees_of_ending ending said before hline hend later
  constructor
  · have hrun := SearchCommand.run_leads filter sink _ policy functions hfirst hprints hpassed
    have hrun' := SearchCommand.run_leads filter sink _ policy functions hsecond hprints' htyped
    rw [hs] at hrun
    rw [ht] at hrun'
    exact ⟨_, _, _, _, hrun, hrun', hagrees _⟩
  · have hrun := Tool.execute_leads hfirst hprints filter sink _ policy functions hpassed
    have hrun' := Tool.execute_leads hsecond hprints' filter sink _ policy functions htyped
    rw [SearchCommand.complaint_eq, ← String.append_assoc,
      ← SearchCommand.messageBox_map fun _ => true] at hrun hrun'
    rw [hs] at hrun
    rw [ht] at hrun'
    exact ⟨_, _, _, _, hrun, hrun', hagrees _⟩

/-- An answer with a carriage return in it, which is a blank, and a separator out of place. -/
def crookedAnswer : String :=
  "\r10_ "

/-- A world in which the answer is typed, and another line behind it. -/
def crookedWorld : World where
  input := typed crookedAnswer "\r\n" (Bytes.ofText "0x10\n")

/-- A search of an empty listing that gets the answer. -/
def crookedSearch (preset : Option String) : StateM World (Except Failure Bool) :=
  let journal := Tool.journal World.terminal (.level .info)
  (Tool.searchRegistry journal (dialogs World.terminal preset) .immediates).execute journal
    SearchCommand.name (Sink.view { printJson := true } World.terminal journal [])

/-- The answer is refused and repeated as it is, whether it is typed or given beforehand, and the
line behind it is left. -/
theorem search_typed_crookedAnswer :
    ∃ passed typed,
      Leads World.scene (crookedSearch (some crookedAnswer)) {}
        (.error (.invalidImmediate crookedAnswer .misplacedSeparator)) passed ∧
      Leads World.scene (crookedSearch none) crookedWorld
        (.error (.invalidImmediate crookedAnswer .misplacedSeparator)) typed ∧
      typed.input = Bytes.ofText "0x10\n" ∧ typed.output = passed.output ∧
      typed.messages = "Search Immediate - Value to search: " ++ passed.messages := by
  have hresult : ((crookedSearch (some crookedAnswer)).run {}).1 =
      .error (.invalidImmediate crookedAnswer .misplacedSeparator) := by decide +kernel
  have hline : '\n' ∉ crookedAnswer.toList := by decide
  have hreturn : '\r' ∉ crookedAnswer.toList.getLast? := by decide
  obtain ⟨-, result, reported, passed, typed, ⟨s, hpassed, hs⟩, htyped, hagree⟩ :=
    search_typed World.faithful_terminal World.faithful_terminal World.printsBy_terminal
      World.printsBy_terminal hline hreturn (.inr rfl)
      (Bytes.ofText "0x10\n") (.level .info) { printJson := true } .immediates []
      (rfl : World.scene {} = World.scene {}) (rfl : World.scene crookedWorld = _)
  change (crookedSearch (some crookedAnswer)).run {} = _ at hpassed
  rw [hpassed] at hresult
  subst hresult
  refine ⟨passed, typed, ⟨s, hpassed, hs⟩, htyped, hagree.typed_input, hagree.output_eq, ?_⟩
  rw [hagree.typed_messages, hagree.passed_messages]
  simp only [World.scene, String.empty_append]
  rfl

end Console
end OperandSearch
