import OperandSearch.Proofs.PublishedEffects

/-!
# Sessions of one view

A view whose reports go to a sink can be used more than once: it is searched, it is searched again,
pages are shown on it.  What such a session has published when it is over, the results on their
stream and the page in its file, is told here from what was answered and what was shown.

A step of a session is one of few turns (`Step.Performs`).  From the turns it is read off that a
text is printed behind the page that belongs to it (`Turn.InOrder`), what one turn publishes
(`Turn.Publishes`), and what all of them do (`SessionPublishes`).

A page can be saved although the text behind it cannot be printed, so a turn that fails may have
replaced the page in the file.  What is found at the path of a file is known only if it is written
as a whole or not at all.  The last section has three sessions in which the file does not hold the
page that was shown last (`shown_page_lost`).
-/

namespace OperandSearch
namespace Sink

variable {σ φ : Type} {see : σ → Scene φ} {disk : Disk φ} {terminal : Terminal (StateM σ)}
  {journal : Journal (StateM σ)}

/-! ## Displays -/

/-- What is shown on a sink: a page, and perhaps a text. -/
structure Display where
  page : String
  text : Option String
  deriving DecidableEq, Repr

/-- How the report of a search is shown.  A document takes the place of the text. -/
def reportDisplay (sink : Sink) (report : Report) : Display where
  page := report.html
  text :=
    if sink.printJson then some (report.document.pretty ++ "\n")
    else if sink.printPlaintext then some (report.title ++ "\n\n" ++ report.plaintext)
    else none

/-- How a page is shown. -/
def pageDisplay (sink : Sink) (title html plaintext : String) : Display where
  page := html
  text := if sink.printPlaintext then some (title ++ "\n\n" ++ plaintext) else none

/-- One turn of a session: what was done, what came of it, and what was to be shown, if anything
was. -/
structure Turn where
  effects : List Effect
  result : Except Failure Unit
  display : Option Display

/-- What a turn gives.  The command was run, if it was one. -/
def Turn.reply (turn : Turn) : Except Failure Bool :=
  turn.result.map fun _ => true

/-- The effect of saving a page. -/
def savedEffects (sink : Sink) (page : String) : List Effect :=
  (sink.htmlPath.map fun path => .wrote path page (.ok ())).toList

/-- Shows something, or fails to.  The page comes first, if there is a file for it. -/
inductive Delivers (sink : Sink) (display : Display) : Turn → Prop
  | unsaved {path : String} {fault : FileFault} (hpath : sink.htmlPath = some path) :
      Delivers sink display
        ⟨[.wrote path display.page (.error fault)], .error (.file fault), some display⟩
  | unprinted {text : String} {fault : FileFault} (htext : display.text = some text) :
      Delivers sink display
        ⟨sink.savedEffects display.page ++ [.printed text (.error fault)], .error (.file fault),
          some display⟩
  | shown : Delivers sink display
      ⟨sink.savedEffects display.page ++
        (display.text.map fun text => .printed text (.ok ())).toList, .ok (), some display⟩

/-- A page is saved, if there is a file for it, or cannot be. -/
theorem runs_save (h : terminal.Faithful disk see) (hjournal : ∀ record, Keeps see (journal record))
    (sink : Sink) (title html : String) (now : Recorded Effect σ) :
    ∃ result effects after,
      Runs disk see (sink.save (observedTerminal terminal) (observedJournal journal) title html)
        (sink.save terminal journal title html) now result effects after ∧
      ((result = .ok () ∧ effects = sink.savedEffects html) ∨
        ∃ path fault, sink.htmlPath = some path ∧ result = .error (.file fault) ∧
          effects = [.wrote path html (.error fault)]) := by
  rw [save, save, savedEffects]
  cases sink.htmlPath with
  | none => exact ⟨_, _, _, .pure _ _, .inl ⟨rfl, rfl⟩⟩
  | some path =>
    obtain ⟨result, written, hwrite⟩ := runs_writeFile h path html now
    cases result with
    | error fault =>
      exact ⟨_, _, _, hwrite.returning rfl rfl, .inr ⟨path, fault, rfl, rfl, rfl⟩⟩
    | ok =>
      exact ⟨_, _, _, hwrite.bind (.unrecorded (hjournal _) (.pure _ _)), .inl ⟨rfl, rfl⟩⟩

/-- **A page is saved, and then the text is printed.** -/
theorem runs_deliver (h : terminal.Faithful disk see)
    (hjournal : ∀ record, Keeps see (journal record)) (sink : Sink) (title : String)
    (display : Display) (now : Recorded Effect σ) :
    ∃ turn after, sink.Delivers display turn ∧
      Runs disk see
        (sink.deliver (observedTerminal terminal) (observedJournal journal) title display.page
          display.text)
        (sink.deliver terminal journal title display.page display.text) now turn.result
        turn.effects after := by
  obtain ⟨result, effects, saved, hsave, hresult⟩ :=
    runs_save h hjournal sink title display.page now
  rcases hresult with ⟨rfl, rfl⟩ | ⟨path, fault, hpath, rfl, rfl⟩
  · obtain ⟨page, _ | text⟩ := display
    · exact ⟨_, saved, .shown, hsave.bind (.pure _ _)⟩
    · obtain ⟨result, after, hprint⟩ := runs_print h text saved
      cases result with
      | ok => exact ⟨_, after, .shown, hsave.bind (hprint.returning rfl rfl)⟩
      | error fault => exact ⟨_, after, .unprinted rfl, hsave.bind (hprint.returning rfl rfl)⟩
  · exact ⟨_, saved, .unsaved hpath, hsave.returning rfl rfl⟩

/-! ## Steps -/

/-- A step of a session: the view is searched, or a page is shown on it. -/
inductive Step (σ : Type) where
  | search (dialogs : Dialogs (StateM σ)) (policy : Policy)
  | page (title html plaintext : String)

namespace Step

/-- A step of which the answers are recorded. -/
def observed : Step σ → Step (Recorded Effect σ)
  | search dialogs policy => .search (observedDialogs dialogs) policy
  | page title html plaintext => .page title html plaintext

/-- A step whose dialogs, if it has any, leave alone what is published. -/
def Discreet (see : σ → Scene φ) : Step σ → Prop
  | search dialogs _ => dialogs.Discreet see
  | page .. => True

/-- Takes a step: executes the search command on the view, or shows the page. -/
def take (journal : Journal (StateM σ)) (view : View (StateM σ)) :
    Step σ → StateM σ (Except Failure Bool)
  | search dialogs policy =>
    (Tool.searchRegistry journal dialogs policy).execute journal SearchCommand.name view
  | page title html plaintext => do
    return (← view.showPage title html plaintext).map fun _ => true

/-- **What a step does.**  A search on a listing can be cancelled, and its answer can be rejected.
Otherwise what was found is shown. -/
inductive Performs (sink : Sink) (functions : List Function) : Step σ → Turn → Prop
  | cancelled {dialogs : Dialogs (StateM σ)} {policy : Policy} :
      Performs sink functions (.search dialogs policy) ⟨[.asked none], .ok (), none⟩
  | rejected {dialogs : Dialogs (StateM σ)} {policy : Policy} {answer : String}
      {reason : Immediate.Reason} (h : Immediate.parse answer = .error reason) :
      Performs sink functions (.search dialogs policy)
        ⟨[.asked (some answer)], .error (.invalidImmediate answer reason), none⟩
  | searched {dialogs : Dialogs (StateM σ)} {policy : Policy} {answer : String} {value : UInt64}
      {turn : Turn} (h : Immediate.parse answer = .ok value)
      (hturn : sink.Delivers
        (sink.reportDisplay { value, results := Match.lookup policy value functions }) turn) :
      Performs sink functions (.search dialogs policy)
        { turn with effects := .asked (some answer) :: turn.effects }
  | page {title html plaintext : String} {turn : Turn}
      (hturn : sink.Delivers (sink.pageDisplay title html plaintext) turn) :
      Performs sink functions (.page title html plaintext) turn

end Step

variable (hfaithful : terminal.Faithful disk see)
  (hjournal : ∀ record, Keeps see (journal record)) (sink : Sink) (functions : List Function)

include hfaithful hjournal

theorem runs_run {dialogs : Dialogs (StateM σ)} (hdialogs : dialogs.Discreet see) (policy : Policy)
    (now : Recorded Effect σ) :
    ∃ turn result after, Step.Performs sink functions (.search dialogs policy) turn ∧
      result.map (fun _ => ()) = turn.result ∧
      Runs disk see
        (SearchCommand.run (observedJournal journal) (observedDialogs dialogs) policy
          (sink.view (observedTerminal terminal) (observedJournal journal) functions))
        (SearchCommand.run journal dialogs policy (sink.view terminal journal functions)) now result
        turn.effects after := by
  obtain ⟨answer?, asked, hask⟩ :=
    runs_ask hdialogs SearchCommand.prompt SearchCommand.name now
  unfold SearchCommand.run
  cases answer? with
  | none =>
    exact ⟨_, .ok none, _, .cancelled, rfl,
      hask.bind (.unrecorded (hjournal SearchCommand.cancelledRecord) (.pure _ _))⟩
  | some answer =>
    cases hparse : Immediate.parse answer with
    | error reason =>
      have houtcome : SearchCommand.outcome policy functions (some answer) =
          .rejected (.invalidImmediate answer reason) := by
        rw [SearchCommand.outcome, Immediate.ofAnswer, hparse]
      refine ⟨_, .error (.invalidImmediate answer reason), asked, .rejected hparse, rfl,
        hask.returning ?_ ?_⟩ <;>
        simp only [view, houtcome]
    | ok value =>
      obtain ⟨report, hreport⟩ : ∃ report : Report,
          report = { value, results := Match.lookup policy value functions } := ⟨_, rfl⟩
      have houtcome : SearchCommand.outcome policy functions (some answer) = .found report := by
        rw [SearchCommand.outcome, Immediate.ofAnswer, hparse, hreport]
      obtain ⟨turn, after, hdelivers, hshow⟩ := runs_deliver hfaithful hjournal sink report.title
        (sink.reportDisplay report)
        ((asked.silently (journal (SearchCommand.scanned functions report))).silently
          (journal (SearchCommand.counted report)))
      refine ⟨{ turn with effects := .asked (some answer) :: turn.effects },
        turn.result.map fun _ => some report, after, .searched hparse (hreport ▸ hdelivers), ?_,
        hask.bind ?_⟩
      · cases turn.result <;> rfl
      · simp only [view, houtcome]
        refine .unrecorded (hjournal _) (.unrecorded (hjournal _) ?_)
        cases hresult : turn.result <;> rw [hresult] at hshow <;> exact hshow.returning rfl rfl

/-- A search is a turn.  The journal and the notice of a failure publish nothing. -/
theorem runs_act {dialogs : Dialogs (StateM σ)} (hdialogs : dialogs.Discreet see) (policy : Policy)
    (now : Recorded Effect σ) :
    ∃ turn after, Step.Performs sink functions (.search dialogs policy) turn ∧
      Runs disk see
        (SearchCommand.act (observedJournal journal) (observedDialogs dialogs) policy
          (sink.view (observedTerminal terminal) (observedJournal journal) functions))
        (SearchCommand.act journal dialogs policy (sink.view terminal journal functions)) now
        turn.result turn.effects after := by
  obtain ⟨⟨effects, _, shown⟩, result, searched, hperforms, rfl, hrun⟩ :=
    runs_run hfaithful hjournal sink functions hdialogs policy now
  cases result with
  | ok report? => exact ⟨_, searched, hperforms, hrun.returning rfl rfl⟩
  | error failure =>
    exact ⟨_, _, hperforms,
      hrun.silently (.unrecorded (hjournal _) (.unrecorded (hdialogs.tell _ _) (.pure _ _)))⟩

/-- **Every step is a turn.** -/
theorem runs_take {step : Step σ} (hstep : step.Discreet see) (now : Recorded Effect σ) :
    ∃ turn after, step.Performs sink functions turn ∧
      Runs disk see
        (step.observed.take (observedJournal journal)
          (sink.view (observedTerminal terminal) (observedJournal journal) functions))
        (step.take journal (sink.view terminal journal functions)) now turn.reply turn.effects
        after := by
  cases step with
  | search dialogs policy =>
    obtain ⟨turn, after, hperforms, hact⟩ :=
      runs_act hfaithful hjournal sink functions hstep policy now
    refine ⟨turn, after, hperforms, ?_⟩
    rw [Step.observed, Step.take, Step.take, Tool.execute_searchRegistry,
      Tool.execute_searchRegistry]
    exact hact.returning rfl rfl
  | page title html plaintext =>
    obtain ⟨turn, after, hdelivers, hshow⟩ := runs_deliver hfaithful hjournal sink title
      (sink.pageDisplay title html plaintext) now
    exact ⟨turn, after, .page hdelivers, hshow.returning rfl rfl⟩

omit hfaithful hjournal

/-! ## Sessions -/

/-- Takes one step after another. -/
def takeEach (journal : Journal (StateM σ)) (view : View (StateM σ)) :
    List (Step σ) → StateM σ (List (Except Failure Bool))
  | [] => return []
  | step :: steps => do
    let reply ← step.take journal view
    let replies ← takeEach journal view steps
    return reply :: replies

theorem takeEach_append (journal : Journal (StateM σ)) (view : View (StateM σ))
    (front back : List (Step σ)) :
    takeEach journal view (front ++ back) = do
      let earlier ← takeEach journal view front
      let later ← takeEach journal view back
      return earlier ++ later := by
  induction front with
  | nil => simp [takeEach]
  | cons step front ih => simp [takeEach, ih]

include hfaithful hjournal

/-- **A session is one turn after another.** -/
theorem runs_takeEach {steps : List (Step σ)} (hsteps : ∀ step ∈ steps, step.Discreet see)
    (start : Recorded Effect σ) :
    ∃ turns after, List.Forall₂ (Step.Performs sink functions) steps turns ∧
      Runs disk see
        (takeEach (observedJournal journal)
          (sink.view (observedTerminal terminal) (observedJournal journal) functions)
          (steps.map Step.observed))
        (takeEach journal (sink.view terminal journal functions) steps) start
        (turns.map Turn.reply) (turns.flatMap Turn.effects) after := by
  induction steps generalizing start with
  | nil => exact ⟨[], start, .nil, .pure _ _⟩
  | cons step steps ih =>
    obtain ⟨hstep, hrest⟩ := List.forall_mem_cons.mp hsteps
    obtain ⟨turn, between, hperforms, htake⟩ :=
      runs_take hfaithful hjournal sink functions hstep start
    obtain ⟨turns, after, hall, hruns⟩ := ih hrest between
    refine ⟨turn :: turns, after, .cons hperforms hall, ?_⟩
    rw [List.flatMap_cons]
    exact htake.bind (hruns.returning rfl rfl)

omit hfaithful hjournal

/-! ## What turns publish -/

/-- The order of a turn: a text is printed, or fails to be, behind the page that it belongs to. -/
def Turn.InOrder (sink : Sink) (turn : Turn) : Prop :=
  ∀ front text result back, turn.effects = front ++ .printed text result :: back →
    ∃ display, turn.display = some display ∧ display.text = some text ∧
      ∀ path, sink.htmlPath = some path → .wrote path display.page (.ok ()) ∈ front

/-- What is published when something is shown.  If its page cannot be saved, this is what the disk
leaves; the text follows a page that was saved. -/
inductive Display.Shows (disk : Disk φ) (sink : Sink) (display : Display) (before : Published φ) :
    Except Failure Unit → Published φ → Prop
  | unsaved {fault : FileFault} {files : φ}
      (hsave : disk.save sink.htmlPath before.files display.page = (.error fault, files)) :
      Shows disk sink display before (.error (.file fault)) { before with files }
  | unprinted {text printed : String} {fault : FileFault} {files : φ}
      (hsave : disk.save sink.htmlPath before.files display.page = (.ok (), files))
      (htext : display.text = some text) :
      Shows disk sink display before (.error (.file fault)) ⟨before.output ++ printed, files⟩
  | shown {files : φ}
      (hsave : disk.save sink.htmlPath before.files display.page = (.ok (), files)) :
      Shows disk sink display before (.ok ()) ⟨before.output ++ display.text.getD "", files⟩

/-- What a turn publishes: what it shows and nothing else. -/
structure Turn.Publishes (disk : Disk φ) (sink : Sink) (turn : Turn) (before after : Published φ) :
    Prop where
  of_none : turn.display = none → after = before
  of_some : ∀ display, turn.display = some display →
    display.Shows disk sink before turn.result after

/-- The page that was saved last by some effects. -/
def lastPage? (effects : List Effect) : Option String :=
  (effects.filterMap Effect.page?).getLast?

/-- What a session with some effects publishes.  The results grow by what was printed.  Without a
file for pages the files are as they were.  If there is one, and it is written as a whole or not at
all, it has the page that was saved last, and if none was saved the files are as they were. -/
structure SessionPublishes (disk : Disk φ) (sink : Sink) (effects : List Effect)
    (before after : Published φ) : Prop where
  output_eq : ∃ pieces, List.Forall₂ Effect.Leaves effects pieces ∧
    after.output = before.output ++ String.join pieces
  files_of_none : sink.htmlPath = none → after.files = before.files
  files_eq : ∀ path, sink.htmlPath = some path → disk.AtomicAt path → lastPage? effects = none →
    after.files = before.files
  read_eq : ∀ path, sink.htmlPath = some path → disk.AtomicAt path →
    disk.read after.files path =
      (lastPage? effects).elim (disk.read before.files path) fun page => .ok page.toUTF8

variable {sink : Sink} {functions : List Function} {display : Display} {turn : Turn}
  {before after : Published φ}

theorem printed_notMem_savedEffects {page text : String} {result : Except FileFault Unit} :
    Effect.printed text result ∉ sink.savedEffects page := by
  simp [savedEffects]

theorem wrote_mem_of_savedEffects {path page text : String} {result : Except FileFault Unit}
    {front back rest : List Effect} (hpath : sink.htmlPath = some path)
    (heffects : sink.savedEffects page ++ rest = front ++ .printed text result :: back) :
    .wrote path page (.ok ()) ∈ front := by
  rw [savedEffects, hpath] at heffects
  cases front with
  | nil => simp at heffects
  | cons effect front =>
    obtain ⟨rfl, -⟩ := List.cons.inj heffects
    exact List.mem_cons_self

theorem Delivers.inOrder (h : sink.Delivers display turn) : turn.InOrder sink := by
  intro front text result back heffects
  have hmem : Effect.printed text result ∈ turn.effects := by
    rw [heffects]
    exact List.mem_append_right _ List.mem_cons_self
  cases h with
  | unsaved => simp at hmem
  | unprinted htext =>
    rw [List.mem_append, or_iff_right printed_notMem_savedEffects, List.mem_singleton] at hmem
    obtain ⟨rfl, -⟩ := Effect.printed.inj hmem
    exact ⟨display, rfl, htext, fun path hpath => wrote_mem_of_savedEffects hpath heffects⟩
  | shown =>
    rw [List.mem_append, or_iff_right printed_notMem_savedEffects] at hmem
    have htext : display.text = some text := by simp_all
    exact ⟨display, rfl, htext, fun path hpath => wrote_mem_of_savedEffects hpath heffects⟩

/-- **A text is printed behind its page**, whatever is done. -/
theorem Step.Performs.inOrder {step : Step σ} (h : step.Performs sink functions turn) :
    turn.InOrder sink := by
  cases h with
  | cancelled => intro _ _ _ _ heffects; simp [List.singleton_eq_append_iff] at heffects
  | rejected => intro _ _ _ _ heffects; simp [List.singleton_eq_append_iff] at heffects
  | searched hparse hturn =>
    intro front text result back heffects
    cases front with
    | nil => simp at heffects
    | cons effect front =>
      obtain ⟨display, hshown, htext, hsaved⟩ :=
        hturn.inOrder front text result back (List.cons.inj heffects).2
      exact ⟨display, hshown, htext, fun path hpath => List.mem_cons_of_mem _ (hsaved path hpath)⟩
  | page hturn => exact hturn.inOrder

/-- Saving a page changes the files only. -/
theorem replays_saved {page : String} (h : Replays disk (sink.savedEffects page) before after) :
    disk.save sink.htmlPath before.files page = (.ok (), after.files) ∧
      after.output = before.output := by
  rw [savedEffects] at h
  cases hpath : sink.htmlPath with
  | none =>
    rw [hpath] at h
    rw [h.eq_of_nil]
    exact ⟨rfl, rfl⟩
  | some path =>
    rw [hpath] at h
    cases h with
    | cons heffect hrest =>
      rw [hrest.eq_of_nil]
      cases heffect with
      | wrote hwrite => exact ⟨hwrite, rfl⟩

/-- What is shown is published, as far as it can be. -/
theorem Delivers.publishes (h : sink.Delivers display turn)
    (hreplays : Replays disk turn.effects before after) :
    turn.Publishes disk sink before after := by
  cases h with
  | unsaved hpath =>
    refine ⟨nofun, ?_⟩
    rintro _ ⟨⟩
    cases hreplays with
    | cons heffect hrest =>
      rw [hrest.eq_of_nil]
      cases heffect with
      | wrote hwrite =>
        refine .unsaved ?_
        rw [hpath]
        exact hwrite
  | unprinted htext =>
    refine ⟨nofun, ?_⟩
    rintro _ ⟨⟩
    obtain ⟨between, hsaved, hcut⟩ := hreplays.exists_of_append
    obtain ⟨hsave, hkept⟩ := replays_saved hsaved
    cases hcut with
    | cons heffect hrest =>
      rw [hrest.eq_of_nil]
      cases heffect
      rw [hkept]
      exact .unprinted hsave htext
  | shown =>
    refine ⟨nofun, ?_⟩
    rintro _ ⟨⟩
    obtain ⟨between, hsaved, hprinted⟩ := hreplays.exists_of_append
    obtain ⟨hsave, hkept⟩ := replays_saved hsaved
    have hshows := Display.Shows.shown hsave
    obtain ⟨page, _ | text⟩ := display
    · rw [hprinted.eq_of_nil]
      rw [Option.getD_none, String.append_empty, ← hkept] at hshows
      exact hshows
    · cases hprinted with
      | cons heffect hrest =>
        rw [hrest.eq_of_nil]
        cases heffect
        rw [hkept]
        exact hshows

/-- **A turn publishes what it shows**, and nothing if it shows nothing. -/
theorem Step.Performs.publishes {step : Step σ} (h : step.Performs sink functions turn)
    (hreplays : Replays disk turn.effects before after) :
    turn.Publishes disk sink before after := by
  cases h with
  | cancelled => exact ⟨fun _ => hreplays.of_asked.eq_of_nil, nofun⟩
  | rejected => exact ⟨fun _ => hreplays.of_asked.eq_of_nil, nofun⟩
  | searched _ hturn =>
    obtain ⟨hnone, hsome⟩ := hturn.publishes hreplays.of_asked
    exact ⟨hnone, hsome⟩
  | page hturn => exact hturn.publishes hreplays

theorem Delivers.writesAt (h : sink.Delivers display turn) :
    ∀ effect ∈ turn.effects, effect.WritesAt sink.htmlPath := by
  have hsaved : ∀ effect ∈ sink.savedEffects display.page, effect.WritesAt sink.htmlPath := by
    rw [savedEffects]
    cases sink.htmlPath <;> simp [Effect.WritesAt]
  cases h with
  | unsaved hpath => simp [Effect.WritesAt, hpath]
  | unprinted =>
    exact List.forall_mem_append.mpr ⟨hsaved, by simp [Effect.WritesAt]⟩
  | shown =>
    refine List.forall_mem_append.mpr ⟨hsaved, ?_⟩
    cases display.text <;> simp [Effect.WritesAt]

theorem Step.Performs.writesAt {step : Step σ} (h : step.Performs sink functions turn) :
    ∀ effect ∈ turn.effects, effect.WritesAt sink.htmlPath := by
  cases h with
  | cancelled => simp [Effect.WritesAt]
  | rejected => simp [Effect.WritesAt]
  | searched _ hturn => exact List.forall_mem_cons.mpr ⟨trivial, hturn.writesAt⟩
  | page hturn => exact hturn.writesAt

theorem writesAt_turns {steps : List (Step σ)} {turns : List Turn}
    (h : List.Forall₂ (Step.Performs sink functions) steps turns) :
    ∀ effect ∈ turns.flatMap Turn.effects, effect.WritesAt sink.htmlPath := by
  induction h with
  | nil => simp
  | cons hperforms _ ih =>
    rw [List.flatMap_cons]
    exact List.forall_mem_append.mpr ⟨hperforms.writesAt, ih⟩

/-- **Turns publish what they show**, one after another. -/
theorem publishes_turns {steps : List (Step σ)} {turns : List Turn}
    (h : List.Forall₂ (Step.Performs sink functions) steps turns)
    (hreplays : Replays disk (turns.flatMap Turn.effects) before after) :
    SessionPublishes disk sink (turns.flatMap Turn.effects) before after where
  output_eq := hreplays.output_eq
  files_of_none hpath := hreplays.files_of_unwritten (hpath ▸ writesAt_turns h)
  files_eq _ hpath hatomic hlast :=
    (hreplays.files_of_atomic hatomic (hpath ▸ writesAt_turns h)).2
      (List.getLast?_eq_none_iff.mp hlast)
  read_eq _ hpath hatomic := (hreplays.files_of_atomic hatomic (hpath ▸ writesAt_turns h)).1

/-- **Sessions of one view.**  Each step of a session, whatever it starts from, is a turn: a search
that is cancelled, an answer that is rejected, or something that is shown or cannot be.  It
publishes what it shows and nothing else, first the page and then the text; a page that cannot be
saved is followed by no text.  After any steps the results have grown by what was printed, one text
behind the other.  If the file is written as a whole or not at all, it has the page that was saved
last, by a turn that showed it or could only not print, or what it had before if none was saved.
The listing that is searched is the same in each step. -/
theorem takeEach_publishes (hfaithful : terminal.Faithful disk see)
    (hjournal : ∀ record, Keeps see (journal record)) (sink : Sink) (functions : List Function) :
    (∀ (step : Step σ) (now : Recorded Effect σ), step.Discreet see →
      ∃ turn after, step.Performs sink functions turn ∧ turn.InOrder sink ∧
        turn.Publishes disk sink (see now.state).published (see after.state).published ∧
        Recorded.Traces
          (step.observed.take (observedJournal journal)
            (sink.view (observedTerminal terminal) (observedJournal journal) functions))
          (step.take journal (sink.view terminal journal functions)) now turn.reply turn.effects
          after) ∧
    (∀ (steps : List (Step σ)) (start : Recorded Effect σ), (∀ step ∈ steps, step.Discreet see) →
      ∃ turns after,
        List.Forall₂ (fun step turn => step.Performs sink functions turn ∧ turn.InOrder sink) steps
          turns ∧
        SessionPublishes disk sink (turns.flatMap Turn.effects) (see start.state).published
          (see after.state).published ∧
        Recorded.Traces
          (takeEach (observedJournal journal)
            (sink.view (observedTerminal terminal) (observedJournal journal) functions)
            (steps.map Step.observed))
          (takeEach journal (sink.view terminal journal functions) steps) start
          (turns.map Turn.reply) (turns.flatMap Turn.effects) after) ∧
    ∀ front back : List (Step σ),
      takeEach journal (sink.view terminal journal functions) (front ++ back) = do
        let earlier ← takeEach journal (sink.view terminal journal functions) front
        let later ← takeEach journal (sink.view terminal journal functions) back
        return earlier ++ later := by
  refine ⟨fun step now hstep => ?_, fun steps start hsteps => ?_, takeEach_append _ _⟩
  · obtain ⟨turn, after, hperforms, hruns⟩ :=
      runs_take hfaithful hjournal sink functions hstep now
    exact ⟨turn, after, hperforms, hperforms.inOrder, hperforms.publishes hruns.replays,
      hruns.traces⟩
  · obtain ⟨turns, after, hall, hruns⟩ :=
      runs_takeEach hfaithful hjournal sink functions hsteps start
    exact ⟨turns, after, hall.imp fun _ _ h => ⟨h, h.inOrder⟩,
      publishes_turns hall hruns.replays, hruns.traces⟩

/-- A sink with a file and both ways to print. -/
def fullSink : Sink where
  htmlPath := some "page"
  printPlaintext := true
  printJson := true

/-- A listing of one function with one instruction. -/
def pushListing : List Function :=
  [{ name := "main"
     start := 0x1000
     instructions := [⟨0x1000, [⟨.instruction, "push", 0⟩, ⟨.integer, "0x10", 0x10⟩]⟩] }]

/-- A world with a file from earlier, and no input. -/
def usedWorld : World where
  files := [("page", "earlier".toUTF8)]

/-- A search on a console, a page, an answer that is no value, and a question nobody answers. -/
def fourSteps : List (Step World) :=
  [.search (Console.dialogs World.terminal (some "0x10")) .immediates,
    .page "Notes" "<p>Notes</p>" "notes\n",
    .search (Console.dialogs World.terminal (some "many")) .immediates,
    .search (Console.dialogs World.terminal none) .immediates]

/-- The session of these steps on the listing. -/
def fourStepSession : StateM World (List (Except Failure Bool)) :=
  let journal := Tool.journal World.terminal (.level .info)
  takeEach journal (fullSink.view World.terminal journal pushListing) fourSteps

/-- The first two steps show something, and the page of the second is left. -/
theorem takeEach_publishes_fourSteps :
    ∃ (turns : List Turn) (after : World),
      fourStepSession.run usedWorld =
        pure ([.ok true, .ok true, .error (.invalidImmediate "many" .invalidDigit), .ok true],
          after) ∧
      after.output = (Report.document ⟨0x10, [⟨0x1000, "main", "push 0x10"⟩]⟩).pretty ++
        "\nNotes\n\nnotes\n" ∧
      World.disk.read after.files "page" = .ok "<p>Notes</p>".toUTF8 ∧
      World.disk.AtomicAt "page" ∧
      SessionPublishes World.disk fullSink (turns.flatMap Turn.effects)
        usedWorld.scene.published after.scene.published := by
  have hsteps : ∀ step ∈ fourSteps, step.Discreet World.scene := by
    simp only [fourSteps, List.forall_mem_cons, Step.Discreet,
      Console.discreet_dialogs World.faithful_terminal, List.not_mem_nil, false_imp_iff,
      implies_true, and_self]
  have hreplies : (fourStepSession.run usedWorld).1 =
      [.ok true, .ok true, .error (.invalidImmediate "many" .invalidDigit), .ok true] := by
    decide +kernel
  have houtput : (fourStepSession.run usedWorld).2.output =
      (Report.document ⟨0x10, [⟨0x1000, "main", "push 0x10"⟩]⟩).pretty ++
        "\nNotes\n\nnotes\n" := by
    decide +kernel
  have hread : World.disk.read (fourStepSession.run usedWorld).2.files "page" =
      .ok "<p>Notes</p>".toUTF8 := by
    decide +kernel
  obtain ⟨turns, after, -, hpublishes, htraces⟩ :=
    (takeEach_publishes World.faithful_terminal
      (Tool.keeps_journal World.faithful_terminal (.level .info)) fullSink pushListing).2.1
      fourSteps ⟨usedWorld, []⟩ hsteps
  have hrun : fourStepSession.run usedWorld = pure (turns.map Turn.reply, after.state) :=
    htraces.run_plain
  rw [hrun] at hreplies houtput hread
  have hatomic : World.disk.AtomicAt "page" := @World.atomicAt_disk _ "page" (by decide +kernel)
  exact ⟨turns, after.state, hrun.trans (congrArg (·, after.state) hreplies), houtput, hread,
    hatomic, hpublishes⟩

/-! ## Pages that are not kept -/

/-- Shows a page on a listing, on the terminal of a world or a variant of it. -/
def showNotes (terminal : Terminal (StateM World)) (sink : Sink) :
    StateM World (List (Except Failure Bool)) :=
  let journal := Tool.journal terminal (.level .info)
  takeEach journal (sink.view terminal journal pushListing) [.page "Notes" "<p>Notes</p>" "notes\n"]

/-- A sink whose file is the null device. -/
def nullSink : Sink where
  htmlPath := some "/dev/null"

/-- The fault of a stream that nobody reads. -/
def brokenPipe : FileFault :=
  .other "Broken pipe" 32

/-- A terminal on which nothing can be printed. -/
def closedTerminal : Terminal (StateM World) :=
  { World.terminal with print := fun _ => return .error brokenPipe }

/-- The fault of a disk on which nothing more can be stored. -/
def diskFull : FileFault :=
  .other "No space left on device" 28

/-- A disk that is full.  A file is emptied before it is written. -/
def fullDisk : Disk Files :=
  { World.disk with write := fun files path _ => (.error diskFull, files.put path .empty) }

/-- A terminal with a full disk. -/
def fullTerminal : Terminal (StateM World) :=
  { World.terminal with
    writeFile := fun path _ => do
      modify fun world => { world with files := world.files.put path .empty }
      return .error diskFull }

theorem faithful_closedTerminal : closedTerminal.Faithful World.disk World.scene where
  readLine := World.faithful_terminal.readLine
  print _ world := ⟨.error brokenPipe, "", nofun, world, rfl, (Scene.print_empty _).symm⟩
  complain := World.faithful_terminal.complain
  mapFile := World.faithful_terminal.mapFile
  writeFile := World.faithful_terminal.writeFile
  clock := World.faithful_terminal.clock

theorem faithful_fullTerminal : fullTerminal.Faithful fullDisk World.scene where
  readLine := World.faithful_terminal.readLine
  print := World.faithful_terminal.print
  complain := World.faithful_terminal.complain
  mapFile := World.faithful_terminal.mapFile
  writeFile _ _ _ := ⟨_, rfl, rfl⟩
  clock := World.faithful_terminal.clock

/-- **A page that was shown last need not be found in the file.**  The null device takes it and
holds nothing.  If the results cannot be printed, a page that was not shown has replaced what the
file had.  If the disk is full, a write that fails has emptied the file. -/
theorem shown_page_lost :
    ((showNotes World.terminal nullSink).run {}).1 = [.ok true] ∧
    World.disk.read ((showNotes World.terminal nullSink).run {}).2.files "/dev/null" ≠
      .ok "<p>Notes</p>".toUTF8 ∧
    closedTerminal.Faithful World.disk World.scene ∧
    ((showNotes closedTerminal fullSink).run usedWorld).1 = [.error (.file brokenPipe)] ∧
    World.disk.read ((showNotes closedTerminal fullSink).run usedWorld).2.files "page" ≠
      World.disk.read usedWorld.files "page" ∧
    fullTerminal.Faithful fullDisk World.scene ∧
    ((showNotes fullTerminal fullSink).run usedWorld).1 = [.error (.file diskFull)] ∧
    fullDisk.read ((showNotes fullTerminal fullSink).run usedWorld).2.files "page" ≠
      fullDisk.read usedWorld.files "page" := by
  exact ⟨by decide +kernel, by decide +kernel, faithful_closedTerminal, by decide +kernel,
    by decide +kernel, faithful_fullTerminal, by decide +kernel, by decide +kernel⟩

end Sink
end OperandSearch
