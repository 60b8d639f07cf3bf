import OperandSearch.Command.Search
import OperandSearch.Proofs.Registry

/-!
# What the analyst sees of a search

A search talks to two parties: it asks the analyst for a value, and it has the host show what was
found.  Either can do anything, with a state of its own, and a host may show reports in its own way
or leave them to its pages.  What the search does to them is a list of effects, which is recorded
while the search runs: each dialog, each page and each report that is shown, with what came of it.

Only three things can happen until there is a result (`Performs`): the analyst does not answer, the
answer is no value, or it is one and the report is shown, successfully or not.  After a failure one
message is left, and that is all (`Performance.effects`).  That the question comes first and the
message last, and that there is no other dialog (`Performs.inOrder`), can be read off these lists.

The command does what a performance says in any state, so a session of executions on one view after
another is a list of performances, whatever the host does in between (`executeEach_performs`).
-/

namespace OperandSearch
namespace SearchCommand

variable {σ : Type}

/-! ## Effects -/

/-- What the search command does to the analyst and the host, with what came of it. -/
inductive Effect where
  | asked (prompt title : String) (answer : Option String)
  | showedPage (title html plaintext : String) (result : Except Failure Unit)
  | showedReport (report : Report) (result : Except Failure Unit)
  | told (title text : String)

namespace Effect

/-- Whether something was asked. -/
def isQuestion : Effect → Bool
  | asked .. => true
  | _ => false

/-- Whether a message was shown. -/
def isMessage : Effect → Bool
  | told .. => true
  | _ => false

end Effect

/-- Surroundings in which the effects of searches are recorded. -/
abbrev Observed (σ : Type) : Type → Type := StateM (Recorded Effect σ)

/-- A host: it can show pages, and may have a way of its own to show finished searches.  The
effects of that way on the pages are not the search's. -/
structure Host (m : Type → Type) where
  functions : List Function
  showPage : (title html plaintext : String) → m (Except Failure Unit)
  showReport? : Option (Report → m (Except Failure Unit)) := none

/-- A host as commands see it. -/
def Host.view {m : Type → Type} (host : Host m) : View m :=
  match host.showReport? with
  | none => { functions := host.functions, showPage := host.showPage }
  | some showReport => { functions := host.functions, showPage := host.showPage, showReport }

/-- A host whose pages are recorded. -/
def Host.paged (host : Host (StateM σ)) : Host (Observed σ) where
  functions := host.functions
  showPage title html plaintext :=
    Recorded.action (.showedPage title html plaintext) (host.showPage title html plaintext)
  showReport? :=
    host.showReport?.map fun showReport report => Recorded.unrecorded (showReport report)

/-- A host as commands see it, every call of it recorded. -/
def Host.observed (host : Host (StateM σ)) : View (Observed σ) :=
  { host.paged.view with
    showReport := fun report => do
      let result ← host.paged.view.showReport report
      Recorded.note (.showedReport report result)
      return result }

/-- Dialogs, every one recorded. -/
def observedDialogs (dialogs : Dialogs (StateM σ)) : Dialogs (Observed σ) where
  ask prompt title := Recorded.action (.asked prompt title) (dialogs.ask prompt title)
  tell title text := Recorded.action (fun _ => .told title text) (dialogs.tell title text)

/-- A journal, whose records are no effects. -/
def observedJournal (journal : Journal (StateM σ)) : Journal (Observed σ) := fun record =>
  Recorded.unrecorded (journal record)

/-! ## Showing a report -/

/-- The effects of showing a report.  A host without a way of its own shows the page. -/
def Host.display (host : Host (StateM σ)) (report : Report) (result : Except Failure Unit) :
    List Effect :=
  match host.showReport? with
  | none =>
    [.showedPage report.title report.html report.plaintext result, .showedReport report result]
  | some _ => [.showedReport report result]

@[simp] theorem Host.functions_observed (host : Host (StateM σ)) :
    host.observed.functions = host.functions := by
  obtain ⟨functions, showPage, _ | showReport⟩ := host <;> rfl

@[simp] theorem Host.functions_view (host : Host (StateM σ)) :
    host.view.functions = host.functions := by
  obtain ⟨functions, showPage, _ | showReport⟩ := host <;> rfl

/-- **A report is shown once**, on its page if the host has no way of its own. -/
theorem Host.showReport_traces (host : Host (StateM σ)) (report : Report)
    (now : Recorded Effect σ) :
    ∃ result after, Recorded.Traces (host.observed.showReport report) (host.view.showReport report)
      now result (host.display report result) after := by
  obtain ⟨functions, showPage, _ | showReport⟩ := host
  · exact ⟨_, _, rfl, rfl, List.append_assoc _ _ _⟩
  · exact ⟨_, _, rfl, rfl, rfl⟩

/-- Showing a report is no dialog. -/
theorem Host.display_no_dialog {host : Host (StateM σ)} {report : Report}
    {result : Except Failure Unit} :
    ∀ effect ∈ host.display report result,
      effect.isQuestion = false ∧ effect.isMessage = false := by
  obtain ⟨functions, showPage, _ | showReport⟩ := host <;>
    simp [display, Effect.isQuestion, Effect.isMessage]

/-! ## Performances -/

/-- The message that goes with a result: a failure is told in its own words. -/
def notice {α : Type} : Except Failure α → List Effect
  | .ok _ => []
  | .error failure => [.told name failure.message]

/-- One performance of the search: what happens until there is a result, and the result. -/
structure Performance where
  searched : List Effect
  result : Except Failure (Option Report)

/-- All that happens in a performance.  The analyst is told of a failure when all else is done. -/
def Performance.effects (performance : Performance) : List Effect :=
  performance.searched ++ notice performance.result

/-- The performances of the search on a host. -/
inductive Performs (policy : Policy) (host : Host (StateM σ)) : Performance → Prop
  /-- The analyst does not answer, and that is all. -/
  | cancelled : Performs policy host ⟨[.asked prompt name none], .ok none⟩
  /-- The answer is no value, and nothing is shown. -/
  | rejected {answer : String} {reason : Immediate.Reason}
      (h : Immediate.parse answer = .error reason) :
      Performs policy host
        ⟨[.asked prompt name (some answer)], .error (.invalidImmediate answer reason)⟩
  /-- The answer is a value, and what was found is shown, or would have been. -/
  | shown {answer : String} {value : UInt64} {report : Report} {result : Except Failure Unit}
      (h : Immediate.parse answer = .ok value)
      (hreport : report = { value, results := Match.lookup policy value host.functions }) :
      Performs policy host
        ⟨.asked prompt name (some answer) :: host.display report result,
          result.map fun _ => some report⟩

/-- The order of dialogs: the only question comes first, and the only message last.  There is a
message exactly if there is a failure, and it says what the failure is. -/
structure Performance.InOrder (performance : Performance) : Prop where
  question : ∃ answer later, performance.effects = .asked prompt name answer :: later ∧
    ∀ effect ∈ later, effect.isQuestion = false
  messages : performance.effects.filter Effect.isMessage = notice performance.result
  last : notice performance.result <:+ performance.effects

variable {policy : Policy} {host : Host (StateM σ)} {performance : Performance}

theorem Performs.searched_eq (h : Performs policy host performance) :
    ∃ answer shown, performance.searched = .asked prompt name answer :: shown ∧
      ∀ effect ∈ shown, effect.isQuestion = false ∧ effect.isMessage = false := by
  cases h with
  | cancelled => exact ⟨none, [], rfl, nofun⟩
  | @rejected answer => exact ⟨some answer, [], rfl, nofun⟩
  | @shown answer => exact ⟨some answer, _, rfl, Host.display_no_dialog⟩

theorem isMessage_of_mem_notice {α : Type} {result : Except Failure α} {effect : Effect}
    (h : effect ∈ notice result) : effect.isQuestion = false ∧ effect.isMessage = true := by
  cases result with
  | ok value => cases h
  | error failure =>
    rw [notice, List.mem_singleton] at h
    rw [h]
    exact ⟨rfl, rfl⟩

/-- **The dialogs of a performance are in order.** -/
theorem Performs.inOrder (h : Performs policy host performance) : performance.InOrder := by
  obtain ⟨answer, shown, hsearched, hshown⟩ := h.searched_eq
  have heffects : performance.effects =
      .asked prompt name answer :: (shown ++ notice performance.result) := by
    rw [Performance.effects, hsearched, List.cons_append]
  refine ⟨⟨answer, _, heffects, fun effect heffect => ?_⟩, ?_, List.suffix_append _ _⟩
  · cases List.mem_append.mp heffect with
    | inl hmem => exact (hshown effect hmem).1
    | inr hmem => exact (isMessage_of_mem_notice hmem).1
  · have hnone : shown.filter Effect.isMessage = [] :=
      List.filter_eq_nil_iff.mpr fun effect hmem => by simp [(hshown effect hmem).2]
    have hall : (notice performance.result).filter Effect.isMessage =
        notice performance.result :=
      List.filter_eq_self.mpr fun effect hmem => (isMessage_of_mem_notice hmem).2
    rw [heffects, List.filter_cons_of_neg (by simp [Effect.isMessage]), List.filter_append, hnone,
      hall, List.nil_append]

/-! ## One execution -/

/-- **One search** is a performance, up to its notice. -/
theorem run_traces (journal : Journal (StateM σ)) (dialogs : Dialogs (StateM σ)) (policy : Policy)
    (host : Host (StateM σ)) (now : Recorded Effect σ) :
    ∃ performance after, Performs policy host performance ∧
      Recorded.Traces
        (run (observedJournal journal) (observedDialogs dialogs) policy host.observed)
        (run journal dialogs policy host.view) now performance.result performance.searched
        after := by
  have hask := Recorded.Traces.action (.asked prompt name) (dialogs.ask prompt name) now
  generalize ((dialogs.ask prompt name).run now.state).1 = answer? at hask
  generalize now.after (dialogs.ask prompt name) _ = asked at hask
  unfold run
  rw [host.functions_observed, host.functions_view]
  cases answer? with
  | none =>
    have hrest := Recorded.Traces.unrecorded (journal cancelledRecord)
      (.pure (Except.ok none : Except Failure (Option Report)) (asked.silently _))
    exact ⟨_, _, .cancelled, hask.bind hrest⟩
  | some answer =>
    cases hparse : Immediate.parse answer with
    | error reason =>
      have houtcome : outcome policy host.functions (some answer) =
          .rejected (.invalidImmediate answer reason) := by
        rw [outcome, Immediate.ofAnswer, hparse]
      exact ⟨_, asked, .rejected hparse,
        hask.returning (by simp only [houtcome]) (by simp only [houtcome])⟩
    | ok value =>
      obtain ⟨report, hreport⟩ : ∃ report : Report,
          report = { value, results := Match.lookup policy value host.functions } := ⟨_, rfl⟩
      have houtcome : outcome policy host.functions (some answer) = .found report := by
        rw [outcome, Immediate.ofAnswer, hparse, hreport]
      obtain ⟨result, shown, hshow⟩ := host.showReport_traces report
        ((asked.silently (journal (scanned host.functions report))).silently
          (journal (counted report)))
      refine ⟨⟨.asked prompt name (some answer) :: host.display report result,
        result.map fun _ => some report⟩, shown, .shown hparse hreport, hask.bind ?_⟩
      simp only [houtcome]
      refine .unrecorded _ (.unrecorded _ ?_)
      cases result <;> exact hshow.returning rfl rfl

/-- **One search, and its notice.**  What the command does to the analyst and the host is a
performance, and its failure is returned. -/
theorem act_traces (journal : Journal (StateM σ)) (dialogs : Dialogs (StateM σ)) (policy : Policy)
    (host : Host (StateM σ)) (now : Recorded Effect σ) :
    ∃ performance after, Performs policy host performance ∧
      Recorded.Traces
        (act (observedJournal journal) (observedDialogs dialogs) policy host.observed)
        (act journal dialogs policy host.view) now (performance.result.map fun _ => ())
        performance.effects after := by
  obtain ⟨performance, searched, hperforms, hrun⟩ := run_traces journal dialogs policy host now
  obtain ⟨effects, result⟩ := performance
  cases result with
  | ok report? =>
    refine ⟨_, searched, hperforms, ?_⟩
    rw [Performance.effects, notice, List.append_nil]
    exact hrun.returning rfl rfl
  | error failure =>
    have htold := Recorded.Traces.action (fun _ => Effect.told name failure.message)
      (dialogs.tell name failure.message) (searched.silently (journal (failedRecord failure)))
    exact ⟨_, _, hperforms, hrun.bind (.unrecorded _ (htold.returning rfl rfl))⟩

/-! ## Executions in a session -/

/-- A turn of a session: what the host does in the meantime, and the view it then provides. -/
structure Turn (σ : Type) where
  meanwhile : StateM σ Unit
  host : Host (StateM σ)

/-- Executes a command in one turn after another. -/
def executeEach (registry : CommandRegistry (Observed σ)) (journal : Journal (Observed σ))
    (key : String) : List (Turn σ) → Observed σ (List (Except Failure Bool))
  | [] => return []
  | turn :: turns => do
    Recorded.unrecorded turn.meanwhile
    let result ← registry.execute journal key turn.host.observed
    let results ← executeEach registry journal key turns
    return result :: results

/-- What an execution of the command gives. -/
def Performance.reply (performance : Performance) : Except Failure Bool :=
  performance.result.map fun _ => true

section Registered

variable {journal : Journal (StateM σ)} {dialogs : Dialogs (StateM σ)}
  {registry : CommandRegistry (Observed σ)} {key : String}

/-- Executing the search performs it, and passes its failure on. -/
theorem execute_traces
    (hget : (registry.get? key).map RegisteredCommand.command =
      some (command (observedJournal journal) (observedDialogs dialogs) policy))
    (host : Host (StateM σ)) (now : Recorded Effect σ) :
    ∃ performance after, Performs policy host performance ∧
      Recorded.Traces
        (act (observedJournal journal) (observedDialogs dialogs) policy host.observed)
        (act journal dialogs policy host.view) now (performance.result.map fun _ => ())
        performance.effects after ∧
      (registry.execute (observedJournal journal) key host.observed).run now =
        pure (performance.reply, after) := by
  obtain ⟨performance, after, hperforms, hact⟩ := act_traces journal dialogs policy host now
  refine ⟨performance, after, hperforms, hact, ?_⟩
  obtain ⟨entry, hentry, hcommand⟩ := Option.map_eq_some_iff.mp hget
  have hvalid : entry.command.isValid host.observed = pure true := by rw [hcommand]; rfl
  rw [CommandRegistry.execute_of_valid hentry hvalid, hcommand]
  change ((act _ _ policy host.observed >>= _).run now) = _
  rw [StateT.run_bind, hact.run, pure_bind, Performance.reply]
  cases performance.result <;> rfl

/-- **Every turn is a performance**, and the record of a session is that of its performances. -/
theorem executeEach_performs
    (hget : (registry.get? key).map RegisteredCommand.command =
      some (command (observedJournal journal) (observedDialogs dialogs) policy))
    (turns : List (Turn σ)) (start : Recorded Effect σ) :
    ∃ performances after,
      (executeEach registry (observedJournal journal) key turns).run start =
        pure (performances.map Performance.reply, after) ∧
      after.events = start.events ++ performances.flatMap Performance.effects ∧
      List.Forall₂ (fun turn performance => Performs policy turn.host performance) turns
        performances := by
  induction turns generalizing start with
  | nil => exact ⟨[], start, rfl, (List.append_nil _).symm, .nil⟩
  | cons turn turns ih =>
    obtain ⟨performance, between, hperforms, hact, hexecute⟩ :=
      execute_traces hget turn.host (start.silently turn.meanwhile)
    obtain ⟨performances, after, hrun, hevents, hall⟩ := ih between
    refine ⟨performance :: performances, after, ?_, ?_, .cons hperforms hall⟩
    · simp only [executeEach, StateT.run_bind, Recorded.run_unrecorded, pure_bind, hexecute, hrun]
      rfl
    · rw [hevents, hact.events, List.flatMap_cons, List.append_assoc, Recorded.events_silently]

/-- **What a search does to the analyst and the host.**  One execution is a performance: it asks
once, before all else, shows a report once at most, and tells of a failure after all else.  The
command gives what it gives unobserved, and the registry passes its failure on.  A session, in which
the host does what it likes between the executions and gives another view to each, is one
performance after another. -/
theorem execution_effects
    (hget : (registry.get? key).map RegisteredCommand.command =
      some (command (observedJournal journal) (observedDialogs dialogs) policy)) :
    (∀ (host : Host (StateM σ)) (now : Recorded Effect σ), ∃ performance after,
      Performs policy host performance ∧ performance.InOrder ∧
      Recorded.Traces
        (act (observedJournal journal) (observedDialogs dialogs) policy host.observed)
        (act journal dialogs policy host.view) now (performance.result.map fun _ => ())
        performance.effects after ∧
      (registry.execute (observedJournal journal) key host.observed).run now =
        pure (performance.result.map fun _ => true, after)) ∧
    ∀ (turns : List (Turn σ)) (start : Recorded Effect σ), ∃ performances after,
      (executeEach registry (observedJournal journal) key turns).run start =
        pure (performances.map Performance.reply, after) ∧
      after.events = start.events ++ performances.flatMap Performance.effects ∧
      List.Forall₂ (fun turn performance =>
        Performs policy turn.host performance ∧ performance.InOrder) turns performances := by
  refine ⟨fun host now => ?_, fun turns start => ?_⟩
  · obtain ⟨performance, after, hperforms, hact, hexecute⟩ := execute_traces hget host now
    exact ⟨performance, after, hperforms, hperforms.inOrder, hact, hexecute⟩
  · obtain ⟨performances, after, hrun, hevents, hall⟩ := executeEach_performs hget turns start
    exact ⟨performances, after, hrun, hevents, hall.imp fun _ _ h => ⟨h, h.inOrder⟩⟩

end Registered

/-- An analyst who has some answers ready, and then none. -/
def scriptedDialogs : Dialogs (StateM (List String)) where
  ask _ _ := modifyGet fun answers => (answers.head?, answers.tail)
  tell _ _ := pure ()

/-- A journal that is not kept. -/
def quietJournal : Journal (StateM (List String)) := fun _ => pure ()

/-- A host with an empty listing. -/
def emptyHost : Host (StateM (List String)) where
  functions := []
  showPage _ _ _ := pure (.ok ())

/-- A host with a way of its own to show reports, by which nothing can be shown. -/
def refusingHost : Host (StateM (List String)) :=
  { emptyHost with showReport? := some fun _ => pure (.error (.file .noDevice)) }

/-- A registry with the search, asking the scripted analyst. -/
def scriptedRegistry : CommandRegistry (Observed (List String)) where
  commands :=
    [registered (observedJournal quietJournal) (observedDialogs scriptedDialogs) .immediates]

/-- The hosts of four turns; the second refuses. -/
def scriptedTurns : List (Turn (List String)) :=
  [emptyHost, refusingHost, emptyHost, emptyHost].map fun host => ⟨pure (), host⟩

/-- A report is shown, another cannot be shown, the next answer is no value, and then there is no
answer. -/
theorem execution_effects_scripted :
    ∃ performances after,
      (executeEach scriptedRegistry (observedJournal quietJournal) name scriptedTurns).run
          ⟨["0x10", "+1", "many"], []⟩ = pure (performances.map Performance.reply, after) ∧
      performances.map Performance.reply =
        [.ok true, .error (.file .noDevice),
          .error (.invalidImmediate "many" .invalidDigit), .ok true] ∧
      after.events = performances.flatMap Performance.effects ∧
      List.Forall₂ (fun turn performance =>
        Performs .immediates turn.host performance ∧ performance.InOrder) scriptedTurns
          performances := by
  have hget : (scriptedRegistry.get? name).map RegisteredCommand.command =
      some (command (observedJournal quietJournal) (observedDialogs scriptedDialogs)
        .immediates) := by
    simp [scriptedRegistry, CommandRegistry.get?, registered]
  have hreplies : ((executeEach scriptedRegistry (observedJournal quietJournal) name
      scriptedTurns).run ⟨["0x10", "+1", "many"], []⟩).1 =
        [.ok true, .error (.file .noDevice),
          .error (.invalidImmediate "many" .invalidDigit), .ok true] := by
    decide +kernel
  obtain ⟨performances, after, hrun, hevents, hall⟩ :=
    (execution_effects hget).2 scriptedTurns ⟨["0x10", "+1", "many"], []⟩
  rw [hrun] at hreplies
  exact ⟨performances, after, hrun, hreplies, hevents, hall⟩

end SearchCommand
end OperandSearch
