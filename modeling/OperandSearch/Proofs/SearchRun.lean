import OperandSearch.Proofs.Surroundings
import OperandSearch.Tool

/-!
# What one search does to its surroundings

The search command asks, searches, saves a page, prints, and reports on the way.  What comes of it
depends on few things: the answer, whether the page can be saved, and whether the text can be
printed.  The last two make a *delivery* (`Delivery`), which can be told from the scene before it.
So the ending of a search (`Ending`) can be told from the scene it starts in, without running
anything (`endingAt`).

The ending says the rest.  A search that is cancelled, or whose answer is rejected, only reports.
Any other search changes the files by its page and the results by its text, as far as these can be
saved and printed (`Delivery.leave`).  `act_leads` is the statement that the command does what its
ending says, on any faithful terminal.
-/

namespace OperandSearch

variable {σ φ : Type} {terminal : Terminal (StateM σ)} {disk : Disk φ} {outlet : Outlet}
  {see : σ → Scene φ}

/-! ## Records -/

/-- What stands on the stream of messages of some records. -/
def LogFilter.transcript (filter : LogFilter) : List LogRecord → String
  | [] => ""
  | record :: rest =>
    (if filter.shows record then record.line ++ "\n" else "") ++ filter.transcript rest

theorem LogFilter.transcript_append (filter : LogFilter) (front back : List LogRecord) :
    filter.transcript (front ++ back) = filter.transcript front ++ filter.transcript back := by
  induction front with
  | nil => simp [transcript]
  | cons record rest ih => rw [List.cons_append, transcript, transcript, ih, String.append_assoc]

/-- A record is told if the filter shows it. -/
theorem journal_leads (h : terminal.Faithful disk see) (filter : LogFilter) (record : LogRecord)
    (s : σ) : Leads see (Tool.journal terminal filter record) s ()
      ((see s).tell (filter.transcript [record])) := by
  rw [Tool.journal]
  split
  · next hshows =>
    have htext : filter.transcript [record] = record.line ++ "\n" := by
      simp [LogFilter.transcript, hshows]
    rw [htext]
    exact h.complain _ s
  · next hhidden =>
    have htext : filter.transcript [record] = "" := by simp [LogFilter.transcript, hhidden]
    rw [htext, Scene.tell_empty]
    exact .pure rfl

namespace Console

/-- The answer to a question: the one given beforehand, or that of the next line. -/
def answer (preset : Option String) (input : List UInt8) : Option String :=
  match preset with
  | some answer => some answer
  | none => (Scene.nextLine input).1.bind answerOfLine

/-- The input that is left after a question. -/
def unread (preset : Option String) (input : List UInt8) : List UInt8 :=
  match preset with
  | some _ => input
  | none => (Scene.nextLine input).2

/-- How a question is put.  One with an answer beforehand is not put at all. -/
def question (preset : Option String) (prompt title : String) : String :=
  match preset with
  | some _ => ""
  | none => title ++ " - " ++ prompt ++ ": "

/-- The scene after a question. -/
def asked (preset : Option String) (prompt title : String) (scene : Scene φ) : Scene φ :=
  { scene.tell (question preset prompt title) with input := unread preset scene.input }

/-- A question takes a line of input, if there is no answer to it beforehand. -/
theorem ask_leads (h : terminal.Faithful disk see) (preset : Option String)
    (prompt title : String) (s : σ) :
    Leads see (ask terminal preset prompt title) s (answer preset (see s).input)
      (asked preset prompt title (see s)) := by
  cases preset with
  | some given =>
    refine .pure ?_
    rw [asked, question, Scene.tell_empty]
    rfl
  | none =>
    refine (h.complain _ s).bind fun s₁ hs₁ => ?_
    refine (h.readLine s₁).bind fun s₂ hs₂ => ?_
    rw [hs₁] at hs₂ ⊢
    exact .pure hs₂

end Console

/-! ## Deliveries -/

/-- What comes of saving a page, if there is a path for it, and the files behind it. -/
def Disk.save (disk : Disk φ) (path? : Option String) (files : φ) (page : String) :
    Except FileFault Unit × φ :=
  match path? with
  | none => (.ok (), files)
  | some path => disk.write files path page

/-- What comes of printing a text, if there is one, and what stands on the stream behind it. -/
def Outlet.publish (outlet : Outlet) (output : String) (text? : Option String) :
    Except FileFault Unit × String :=
  match text? with
  | none => (.ok (), output)
  | some text => outlet output text

/-- What comes of saving a page and printing a text, in this order. -/
inductive Delivery (φ : Type) where
  /-- The page could not be saved. -/
  | unsaved (fault : FileFault) (files : φ)
  /-- The page was saved, but the text could not be printed. -/
  | unprinted (fault : FileFault) (files : φ) (output : String)
  | shown (files : φ) (output : String)

namespace Sink

/-- What is reported about a page that was saved. -/
def savedRecords (path? : Option String) (title : String) : List LogRecord :=
  (path?.map (written title)).toList

end Sink

namespace Delivery

/-- The delivery of a page and a text to a sink, in a scene. -/
def of (disk : Disk φ) (outlet : Outlet) (sink : Sink) (page : String) (text? : Option String)
    (scene : Scene φ) : Delivery φ :=
  match disk.save sink.htmlPath scene.files page with
  | (.error fault, files) => .unsaved fault files
  | (.ok (), files) =>
    match outlet.publish scene.output text? with
    | (.error fault, output) => .unprinted fault files output
    | (.ok (), output) => .shown files output

/-- What the delivery gives. -/
def result : Delivery φ → Except Failure Unit
  | unsaved fault _ => .error (.file fault)
  | unprinted fault _ _ => .error (.file fault)
  | shown _ _ => .ok ()

/-- What the delivery reports on the way. -/
def records (path? : Option String) (title : String) : Delivery φ → List LogRecord
  | unsaved _ _ => []
  | unprinted _ _ _ => Sink.savedRecords path? title
  | shown _ _ => Sink.savedRecords path? title

/-- What the delivery does to the files and to the results. -/
def leave (scene : Scene φ) : Delivery φ → Scene φ
  | unsaved _ files => { scene with files }
  | unprinted _ files output => { scene with files, output }
  | shown files output => { scene with files, output }

@[simp] theorem messages_leave (delivery : Delivery φ) (scene : Scene φ) :
    (delivery.leave scene).messages = scene.messages := by
  cases delivery <;> rfl

@[simp] theorem input_leave (delivery : Delivery φ) (scene : Scene φ) :
    (delivery.leave scene).input = scene.input := by
  cases delivery <;> rfl

end Delivery

namespace Sink

theorem save_leads_of_ok (h : terminal.Faithful disk see) (filter : LogFilter) (sink : Sink)
    (title html : String) {s : σ} {files : φ}
    (hsave : disk.save sink.htmlPath (see s).files html = (.ok (), files)) :
    Leads see (sink.save terminal (Tool.journal terminal filter) title html) s (.ok ())
      ({ see s with files }.tell (filter.transcript (savedRecords sink.htmlPath title))) := by
  rw [save]
  cases hpath : sink.htmlPath with
  | none =>
    rw [hpath] at hsave
    cases hsave
    exact .pure (Scene.tell_empty _).symm
  | some path =>
    have hwrite := h.writeFile path html s
    rw [hpath, Disk.save] at hsave
    rw [hsave] at hwrite
    refine hwrite.bind fun s₁ hs₁ => ?_
    refine (journal_leads h filter (written title path) s₁).bind fun s₂ hs₂ => ?_
    rw [hs₁] at hs₂
    exact .pure hs₂

theorem save_leads_of_error (h : terminal.Faithful disk see) (filter : LogFilter) (sink : Sink)
    (title html : String) {s : σ} {fault : FileFault} {files : φ}
    (hsave : disk.save sink.htmlPath (see s).files html = (.error fault, files)) :
    Leads see (sink.save terminal (Tool.journal terminal filter) title html) s
      (.error (.file fault)) { see s with files } := by
  rw [save]
  cases hpath : sink.htmlPath with
  | none =>
    rw [hpath] at hsave
    cases hsave
  | some path =>
    have hwrite := h.writeFile path html s
    rw [hpath, Disk.save] at hsave
    rw [hsave] at hwrite
    exact hwrite.bind fun s₁ hs₁ => .pure hs₁

theorem publish_leads (hprints : terminal.PrintsBy outlet see) (text? : Option String) (s : σ) :
    Leads see (publish terminal text?) s
      ((outlet.publish (see s).output text?).1.mapError .file)
      { see s with output := (outlet.publish (see s).output text?).2 } := by
  cases text? with
  | none => exact .pure rfl
  | some text =>
    refine (hprints text s).bind fun s₁ hs₁ => ?_
    rw [Outlet.publish]
    cases (outlet (see s).output text).1 <;> exact .pure hs₁

/-- **What is shown comes to what its delivery says.** -/
theorem deliver_leads (h : terminal.Faithful disk see) (hprints : terminal.PrintsBy outlet see)
    (filter : LogFilter) (sink : Sink) (title page : String) (text? : Option String) (s : σ)
    {delivery : Delivery φ} (hdelivery : .of disk outlet sink page text? (see s) = delivery) :
    Leads see (sink.deliver terminal (Tool.journal terminal filter) title page text?) s
      delivery.result
      ((delivery.leave (see s)).tell
        (filter.transcript (delivery.records sink.htmlPath title))) := by
  subst hdelivery
  rcases hsave : disk.save sink.htmlPath (see s).files page with ⟨fault | ⟨⟩, files⟩
  · simp only [Delivery.of, hsave]
    refine (save_leads_of_error h filter sink title page hsave).bind fun s₁ hs₁ => .pure ?_
    rw [hs₁, Delivery.records, LogFilter.transcript, Scene.tell_empty, Delivery.leave]
  · simp only [Delivery.of, hsave]
    refine (save_leads_of_ok h filter sink title page hsave).bind fun s₁ hs₁ => ?_
    have hpublish := publish_leads hprints text? s₁
    have houtput : (see s₁).output = (see s).output := by rw [hs₁]; rfl
    rw [houtput, hs₁] at hpublish
    rcases houtlet : outlet.publish (see s).output text? with ⟨fault | ⟨⟩, output⟩ <;>
      rw [houtlet] at hpublish <;> exact hpublish

end Sink

/-! ## Endings -/

namespace SearchCommand

/-- How a search ends. -/
inductive Ending (φ : Type) where
  /-- The analyst did not answer. -/
  | cancelled
  /-- The answer is no value. -/
  | rejected (failure : Failure)
  /-- There is a report, and this came of showing it. -/
  | found (report : Report) (delivery : Delivery φ)

namespace Ending

/-- What the search gives. -/
def result : Ending φ → Except Failure (Option Report)
  | cancelled => .ok none
  | rejected failure => .error failure
  | found report delivery => delivery.result.map fun _ => some report

/-- What the search reports on the way. -/
def records (functions : List Function) (path? : Option String) : Ending φ → List LogRecord
  | cancelled => [cancelledRecord]
  | rejected _ => []
  | found report delivery =>
    [scanned functions report, counted report] ++ delivery.records path? report.title

/-- What the search does to the files and to the results. -/
def leave (scene : Scene φ) : Ending φ → Scene φ
  | found _ delivery => delivery.leave scene
  | _ => scene

@[simp] theorem messages_leave (ending : Ending φ) (scene : Scene φ) :
    (ending.leave scene).messages = scene.messages := by
  cases ending <;> simp [leave]

@[simp] theorem input_leave (ending : Ending φ) (scene : Scene φ) :
    (ending.leave scene).input = scene.input := by
  cases ending <;> simp [leave]

theorem files_leave (ending : Ending φ) {scene other : Scene φ} (h : scene.files = other.files) :
    (ending.leave scene).files = (ending.leave other).files := by
  rcases ending with _ | _ | ⟨_, _ | _ | _⟩ <;> first | exact h | rfl

theorem output_leave (ending : Ending φ) {scene other : Scene φ} (h : scene.output = other.output) :
    (ending.leave scene).output = (ending.leave other).output := by
  rcases ending with _ | _ | ⟨_, _ | _ | _⟩ <;> first | exact h | rfl

end Ending

/-- What the analyst is told if a search fails. -/
def complaint (filter : LogFilter) {α : Type} : Except Failure α → String
  | .ok _ => ""
  | .error failure =>
    filter.transcript [failedRecord failure] ++ (name ++ ": " ++ failure.message ++ "\n")

variable (filter : LogFilter) (sink : Sink) (preset : Option String) (policy : Policy)
  (functions : List Function)

/-- The ending of a search that starts in a scene. -/
def endingAt (disk : Disk φ) (outlet : Outlet) (scene : Scene φ) : Ending φ :=
  match outcome policy functions (Console.answer preset scene.input) with
  | .cancelled => .cancelled
  | .rejected failure => .rejected failure
  | .found report =>
    .found report (.of disk outlet sink report.html (sink.reportText report) scene)

/-- **A search does what its ending says.** -/
theorem run_leads (h : terminal.Faithful disk see) (hprints : terminal.PrintsBy outlet see) {s : σ}
    {ending : Ending φ}
    (hending : endingAt sink preset policy functions disk outlet (see s) = ending) :
    Leads see
      (run (Tool.journal terminal filter) (Console.dialogs terminal preset) policy
        (sink.view terminal (Tool.journal terminal filter) functions)) s
      ending.result
      ((ending.leave (Console.asked preset prompt name (see s))).tell
        (filter.transcript (ending.records functions sink.htmlPath))) := by
  subst hending
  refine (Console.ask_leads h preset prompt name s).bind fun s₁ hs₁ => ?_
  have hfunctions : (sink.view terminal (Tool.journal terminal filter) functions).functions =
      functions := rfl
  rw [hfunctions, endingAt, ← hs₁]
  cases outcome policy functions (Console.answer preset (see s).input) with
  | cancelled =>
    exact (journal_leads h filter cancelledRecord s₁).bind fun s₂ hs₂ => .pure hs₂
  | rejected failure => exact .pure (Scene.tell_empty _).symm
  | found report =>
    refine (journal_leads h filter (scanned functions report) s₁).bind fun s₂ hs₂ => ?_
    refine (journal_leads h filter (counted report) s₂).bind fun s₃ hs₃ => ?_
    have htold : see s₃ = (see s₁).tell
        (filter.transcript [scanned functions report, counted report]) := by
      rw [hs₃, hs₂, Scene.tell_tell, ← LogFilter.transcript_append, List.singleton_append]
    -- the question and the two records leave files and results as they were
    have hkept : Delivery.of disk outlet sink report.html (sink.reportText report) (see s₃) =
        .of disk outlet sink report.html (sink.reportText report) (see s) := by
      rw [htold, hs₁]
      rfl
    refine (Sink.deliver_leads h hprints filter sink report.title report.html
      (sink.reportText report) s₃ hkept).bind fun s₄ hs₄ => ?_
    have hscene : see s₄ = (((Delivery.of disk outlet sink report.html (sink.reportText report)
        (see s)).leave (see s₁)).tell (filter.transcript (Ending.records functions sink.htmlPath
          (.found report (.of disk outlet sink report.html (sink.reportText report)
            (see s)))))) := by
      rw [hs₄, htold, Ending.records, LogFilter.transcript_append, ← Scene.tell_tell]
      cases Delivery.of disk outlet sink report.html (sink.reportText report) (see s) <;> rfl
    cases hresult : (Delivery.of disk outlet sink report.html (sink.reportText report)
        (see s)).result <;>
      rw [Ending.result, hresult] <;> exact .pure hscene

/-- **The command does what its ending says**, and tells the analyst of a failure. -/
theorem act_leads (h : terminal.Faithful disk see) (hprints : terminal.PrintsBy outlet see) {s : σ}
    {ending : Ending φ}
    (hending : endingAt sink preset policy functions disk outlet (see s) = ending) :
    Leads see
      (act (Tool.journal terminal filter) (Console.dialogs terminal preset) policy
        (sink.view terminal (Tool.journal terminal filter) functions)) s
      (ending.result.map fun _ => ())
      ((ending.leave (Console.asked preset prompt name (see s))).tell
        (filter.transcript (ending.records functions sink.htmlPath) ++
          complaint filter ending.result)) := by
  refine (run_leads filter sink preset policy functions h hprints hending).bind fun s₁ hs₁ => ?_
  cases ending.result with
  | ok report? =>
    refine .pure (hs₁.trans ?_)
    rw [complaint, String.append_empty]
  | error failure =>
    refine (journal_leads h filter (failedRecord failure) s₁).bind fun s₂ hs₂ => ?_
    refine (h.complain _ s₂).bind fun s₃ hs₃ => ?_
    refine .pure (hs₃.trans ?_)
    rw [hs₂, hs₁, Scene.tell_tell, Scene.tell_tell, complaint]

end SearchCommand
end OperandSearch
