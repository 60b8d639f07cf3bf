import OperandSearch.Proofs.Recording
import OperandSearch.Proofs.ToolRun

/-!
# What a program publishes

Of all that a program leaves behind, what counts for others is what it publishes: the results on
their stream, and the files.  Three kinds of things are effects and are recorded: a question that is
answered, a file that is written, and a text that is printed, the last two with what came of them.
The first publishes nothing, but what is published may depend on it.  A write that fails leaves the
files that the disk says, and a text that cannot be printed may leave anything behind the results.

Whoever asks or keeps the journal may do what they like, as long as they leave the results and the
files alone (`Keeps`).  So what is published changes by the effects only, and it can be found by
replaying them (`Replays`).  `Runs` is the statement that a program has certain effects, together
with this; it is put together along the program by `Runs.bind`.
-/

namespace OperandSearch

variable {σ φ α β : Type} {see : σ → Scene φ} {disk : Disk φ} {terminal : Terminal (StateM σ)}

/-! ## What is published -/

/-- What stands on the stream of results, and the files. -/
structure Published (φ : Type) where
  output : String
  files : φ

/-- What is published in a scene. -/
def Scene.published (scene : Scene φ) : Published φ where
  output := scene.output
  files := scene.files

/-- A program that leaves alone what is published, whatever else it does. -/
def Keeps (see : σ → Scene φ) (x : StateM σ α) : Prop :=
  ∀ s, (see (x.run s).2).published = (see s).published

theorem Keeps.of_leads {x : StateM σ α}
    (h : ∀ s, ∃ a after, Leads see x s a after ∧ after.published = (see s).published) :
    Keeps see x := fun s => by
  obtain ⟨a, after, ⟨s', hrun, hsee⟩, hkept⟩ := h s
  rw [hrun]
  exact (congrArg Scene.published hsee).trans hkept

/-- Dialogs that leave alone what is published. -/
structure Dialogs.Discreet (see : σ → Scene φ) (dialogs : Dialogs (StateM σ)) : Prop where
  ask : ∀ prompt title, Keeps see (dialogs.ask prompt title)
  tell : ∀ title text, Keeps see (dialogs.tell title text)

/-- **Dialogs on a console are discreet**: they use the input and the stream of messages. -/
theorem Console.discreet_dialogs (h : terminal.Faithful disk see) (preset : Option String) :
    (Console.dialogs terminal preset).Discreet see where
  ask prompt title := .of_leads fun s => ⟨_, _, Console.ask_leads h preset prompt title s, rfl⟩
  tell _ _ := .of_leads fun s => ⟨_, _, h.complain _ s, rfl⟩

/-- The journal of a run keeps to the stream of messages. -/
theorem Tool.keeps_journal (h : terminal.Faithful disk see) (filter : LogFilter)
    (record : LogRecord) : Keeps see (Tool.journal terminal filter record) :=
  .of_leads fun s => ⟨_, _, journal_leads h filter record s, rfl⟩

namespace Sink

/-! ## Effects -/

/-- What a session does to what is published, and the answers it depends on. -/
inductive Effect where
  | asked (answer : Option String)
  | wrote (path content : String) (result : Except FileFault Unit)
  | printed (text : String) (result : Except FileFault Unit)

/-- Surroundings in which the effects of a session are recorded. -/
abbrev Observed (σ : Type) : Type → Type := StateM (Recorded Effect σ)

/-- A terminal on which what is published is recorded. -/
def observedTerminal (terminal : Terminal (StateM σ)) : Terminal (Observed σ) :=
  { terminal.lift Recorded.unrecorded with
    print := fun text => Recorded.action (.printed text) (terminal.print text)
    writeFile := fun path content =>
      Recorded.action (.wrote path content) (terminal.writeFile path content) }

/-- A journal, whose records are no effects. -/
def observedJournal (journal : Journal (StateM σ)) : Journal (Observed σ) := fun record =>
  Recorded.unrecorded (journal record)

/-- Dialogs of which the answers are recorded. -/
def observedDialogs (dialogs : Dialogs (StateM σ)) : Dialogs (Observed σ) where
  ask prompt title := Recorded.action .asked (dialogs.ask prompt title)
  tell title text := Recorded.unrecorded (dialogs.tell title text)

namespace Effect

/-- The page that an effect has put into a file. -/
def page? : Effect → Option String
  | wrote _ content (.ok ()) => some content
  | _ => none

/-- An effect writes the file at this path, if it writes one at all. -/
def WritesAt (path? : Option String) : Effect → Prop
  | wrote written _ _ => path? = some written
  | _ => True

/-- What an effect can leave behind the results.  Of a text that cannot be printed this may be
anything. -/
def Leaves : Effect → String → Prop
  | printed text (.ok ()), piece => piece = text
  | printed _ (.error _), _ => True
  | _, piece => piece = ""

end Effect

/-- What an effect does to what is published. -/
inductive Effect.Changes (disk : Disk φ) : Effect → Published φ → Published φ → Prop
  | asked {answer : Option String} {now : Published φ} : Changes disk (.asked answer) now now
  | wrote {path content : String} {now : Published φ} {result : Except FileFault Unit} {files : φ}
      (h : disk.write now.files path content = (result, files)) :
      Changes disk (.wrote path content result) now { now with files }
  | printed {text : String} {now : Published φ} :
      Changes disk (.printed text (.ok ())) now { now with output := now.output ++ text }
  /-- Part of the text may have been printed, or something else. -/
  | cut {text printed : String} {now : Published φ} {fault : FileFault} :
      Changes disk (.printed text (.error fault)) now { now with output := now.output ++ printed }

/-- What is published changes by some effects, one after another. -/
inductive Replays (disk : Disk φ) : List Effect → Published φ → Published φ → Prop
  | nil {now : Published φ} : Replays disk [] now now
  | cons {effect : Effect} {effects : List Effect} {before between after : Published φ}
      (h : effect.Changes disk before between) (hrest : Replays disk effects between after) :
      Replays disk (effect :: effects) before after

namespace Replays

variable {before between after : Published φ} {front back : List Effect}

theorem append (hfront : Replays disk front before between)
    (hback : Replays disk back between after) : Replays disk (front ++ back) before after := by
  induction hfront with
  | nil => exact hback
  | cons heffect _ ih => exact .cons heffect (ih hback)

theorem exists_of_append (h : Replays disk (front ++ back) before after) :
    ∃ between, Replays disk front before between ∧ Replays disk back between after := by
  induction front generalizing before with
  | nil => exact ⟨before, .nil, h⟩
  | cons effect front ih =>
    cases h with
    | cons heffect hrest =>
      obtain ⟨between, hfront, hback⟩ := ih hrest
      exact ⟨between, .cons heffect hfront, hback⟩

/-- An answer publishes nothing. -/
theorem of_asked {answer : Option String}
    (h : Replays disk (.asked answer :: back) before after) : Replays disk back before after := by
  cases h with
  | cons heffect hrest =>
    cases heffect
    exact hrest

theorem eq_of_nil (h : Replays disk [] before after) : after = before := by
  cases h
  rfl

/-- **The results grow by a piece for each effect.** -/
theorem output_eq {effects : List Effect} (h : Replays disk effects before after) :
    ∃ pieces, List.Forall₂ Effect.Leaves effects pieces ∧
      after.output = before.output ++ String.join pieces := by
  induction h with
  | nil => exact ⟨[], .nil, String.append_empty.symm⟩
  | cons hchange _ ih =>
    obtain ⟨pieces, hpieces, houtput⟩ := ih
    rw [houtput]
    cases hchange with
    | asked =>
      exact ⟨"" :: pieces, .cons rfl hpieces, by rw [String.join_cons, String.empty_append]⟩
    | wrote =>
      exact ⟨"" :: pieces, .cons rfl hpieces, by rw [String.join_cons, String.empty_append]⟩
    | printed =>
      exact ⟨_ :: pieces, .cons rfl hpieces, by rw [String.join_cons, String.append_assoc]⟩
    | @cut text printed =>
      exact ⟨printed :: pieces, .cons trivial hpieces,
        by rw [String.join_cons, String.append_assoc]⟩

theorem files_of_unwritten {effects : List Effect}
    (hwrote : ∀ effect ∈ effects, effect.WritesAt none) (h : Replays disk effects before after) :
    after.files = before.files := by
  induction h with
  | nil => rfl
  | cons hchange _ ih =>
    rw [List.forall_mem_cons] at hwrote
    rw [ih hwrote.2]
    cases hchange with
    | wrote => cases hwrote.1
    | _ => rfl

/-- **A path that is written as a whole or not at all holds the last page that could be written**,
if nothing else is written. -/
theorem files_of_atomic {effects : List Effect} {path : String} (hatomic : disk.AtomicAt path)
    (hwrote : ∀ effect ∈ effects, effect.WritesAt (some path))
    (h : Replays disk effects before after) :
    disk.read after.files path = ((effects.filterMap Effect.page?).getLast?.elim
        (disk.read before.files path) fun page => .ok page.toUTF8) ∧
      (effects.filterMap Effect.page? = [] → after.files = before.files) := by
  induction h with
  | nil => exact ⟨rfl, fun _ => rfl⟩
  | cons hchange _ ih =>
    rw [List.forall_mem_cons] at hwrote
    obtain ⟨hread, hfiles⟩ := ih hwrote.2
    cases hchange with
    | asked => exact ⟨hread, hfiles⟩
    | printed => exact ⟨hread, hfiles⟩
    | cut => exact ⟨hread, hfiles⟩
    | @wrote written content _ result _ hwrite =>
      obtain rfl : path = written := Option.some.inj hwrote.1
      cases result with
      | error fault =>
        rw [hatomic.eq_of_error hwrite] at hread hfiles
        exact ⟨hread, hfiles⟩
      | ok =>
        refine ⟨?_, nofun⟩
        have hpages (effects : List Effect) :
            (Effect.wrote path content (.ok ()) :: effects).filterMap Effect.page? =
              content :: effects.filterMap Effect.page? := List.filterMap_cons_some rfl
        rw [hread, hpages, List.getLast?_cons]
        cases (List.filterMap Effect.page? _).getLast? with
        | none => exact hatomic.read_of_ok hwrite
        | some page => rfl

end Replays

/-! ## Programs with effects -/

/-- A program gives a result and has some effects, and what is published changes by them and by
nothing else. -/
structure Runs (disk : Disk φ) (see : σ → Scene φ) (observed : Observed σ α) (plain : StateM σ α)
    (now : Recorded Effect σ) (result : α) (effects : List Effect) (after : Recorded Effect σ) :
    Prop where
  traces : Recorded.Traces observed plain now result effects after
  replays : Replays disk effects (see now.state).published (see after.state).published

namespace Runs

variable {now middle after : Recorded Effect σ} {effects front back : List Effect}
  {observed : Observed σ α} {plain : StateM σ α} {observedNext : α → Observed σ β}
  {plainNext : α → StateM σ β} {a : α} {b : β}

theorem pure (result : α) (now : Recorded Effect σ) :
    Runs disk see (Pure.pure result) (Pure.pure result) now result [] now :=
  ⟨.pure result now, .nil⟩

theorem action (event : α → Effect) {x : StateM σ α} {scene : Scene φ}
    (hx : Leads see x now.state a scene)
    (hchanges : (event a).Changes disk (see now.state).published scene.published) :
    ∃ after, Runs disk see (Recorded.action event x) x now a [event a] after := by
  obtain ⟨s', hrun, rfl⟩ := hx
  refine ⟨⟨s', now.events ++ [event a]⟩, ⟨?_, hrun, rfl⟩, .cons hchanges .nil⟩
  rw [Recorded.run_action, Recorded.after, hrun]
  rfl

/-- **What follows has its effects behind.** -/
theorem bind (h : Runs disk see observed plain now a front middle)
    (hnext : Runs disk see (observedNext a) (plainNext a) middle b back after) :
    Runs disk see (observed >>= observedNext) (plain >>= plainNext) now b (front ++ back) after :=
  ⟨h.traces.bind hnext.traces, h.replays.append hnext.replays⟩

theorem silently (h : Runs disk see observed plain now a effects middle)
    (hnext : Runs disk see (observedNext a) (plainNext a) middle b [] after) :
    Runs disk see (observed >>= observedNext) (plain >>= plainNext) now b effects after := by
  rw [← List.append_nil effects]
  exact h.bind hnext

theorem returning (h : Runs disk see observed plain now a effects after)
    (hobserved : observedNext a = Pure.pure b) (hplain : plainNext a = Pure.pure b) :
    Runs disk see (observed >>= observedNext) (plain >>= plainNext) now b effects after :=
  ⟨h.traces.returning hobserved hplain, h.replays⟩

/-- An action that publishes nothing may come before. -/
theorem unrecorded {rest : Observed σ α} {plainRest : StateM σ α} {x : StateM σ β}
    (hx : Keeps see x)
    (h : Runs disk see rest plainRest (now.silently x) a effects after) :
    Runs disk see (Recorded.unrecorded x >>= fun _ => rest) (x >>= fun _ => plainRest) now a
      effects after where
  traces := .unrecorded x h.traces
  replays := by
    have hkept : (see (now.silently x).state).published = (see now.state).published := hx now.state
    rw [← hkept]
    exact h.replays

end Runs

/-! ## What can be done on a terminal -/

theorem runs_ask {dialogs : Dialogs (StateM σ)} (hdialogs : dialogs.Discreet see)
    (prompt title : String) (now : Recorded Effect σ) :
    ∃ answer after, Runs disk see ((observedDialogs dialogs).ask prompt title)
      (dialogs.ask prompt title) now answer [.asked answer] after := by
  have hchanges : (Effect.asked ((dialogs.ask prompt title).run now.state).1).Changes disk
      (see now.state).published
      (see ((dialogs.ask prompt title).run now.state).2).published := by
    rw [hdialogs.ask prompt title now.state]
    exact .asked
  exact ⟨_, Runs.action .asked ⟨_, rfl, rfl⟩ hchanges⟩

/-- A text is printed, or something is left of it. -/
theorem runs_print (h : terminal.Faithful disk see) (text : String) (now : Recorded Effect σ) :
    ∃ result after, Runs disk see ((observedTerminal terminal).print text) (terminal.print text) now
      result [.printed text result] after := by
  obtain ⟨result, printed, hprinted, hleads⟩ := h.print text now.state
  refine ⟨result, Runs.action (.printed text) hleads ?_⟩
  cases result with
  | ok =>
    rw [hprinted rfl]
    exact .printed
  | error fault => exact .cut

/-- A file is written, or what the disk says is left of it. -/
theorem runs_writeFile (h : terminal.Faithful disk see) (path content : String)
    (now : Recorded Effect σ) :
    ∃ result after, Runs disk see ((observedTerminal terminal).writeFile path content)
      (terminal.writeFile path content) now result [.wrote path content result] after :=
  ⟨_, Runs.action (.wrote path content) (h.writeFile path content now.state) (.wrote rfl)⟩

end Sink
end OperandSearch
