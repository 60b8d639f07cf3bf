import Mathlib.Data.List.Induction
import Mathlib.Data.List.Nodup
import OperandSearch.Proofs.Recording

/-!
# The registry as an ordered map

Registering a command removes one earlier command at most, the first of its name.  That this is
enough rests on an invariant: there is never more than one.  It is part of a stronger statement,
which says what the registry holds after any registrations, namely those that have no later one of
the same name, in their order (`current`).  One more registration takes the earlier one of its name
out, wherever it stands, and goes to the end (`current_concat`).

Between registrations the registry may be asked for a name, for all commands, or to execute a
command on a view.  These requests leave it as it is, so after any session its content depends on
the registrations alone, and every request is answered from the last registration of its name
(`Answers`).  To tell which commands are consulted and run, each registration has a tag, and each
call of a command is recorded under the tag of its registration.  Of this the commands and the views
know nothing: they are any commands and any views on a state.
-/

namespace OperandSearch

namespace CommandRegistry

/-! ## Executing -/

theorem execute_of_valid {m : Type → Type} [Monad m] [LawfulMonad m] {registry : CommandRegistry m}
    {journal : Journal m} {name : String} {view : View m} {entry : RegisteredCommand m}
    (hget : registry.get? name = some entry)
    (hvalid : entry.command.isValid view = pure true) :
    registry.execute journal name view =
      entry.command.act view >>= fun result => pure (result.map fun _ => true) := by
  rw [execute, hget]
  simp only [hvalid, pure_bind, if_true]
  refine bind_congr fun result => ?_
  cases result <;> rfl

end CommandRegistry

namespace Registry

/-! ## Requests -/

/-- What happens while a registry is used: it reports something, it asks a command whether it is
valid, or it runs it.  Commands are known by tags. -/
inductive Event (τ : Type) where
  | noted (record : LogRecord)
  | consulted (tag : τ)
  | ran (tag : τ)

/-- Surroundings in which the calls of commands are recorded. -/
abbrev Watched (τ σ : Type) : Type → Type := StateM (Recorded (Event τ) σ)

/-- A registration: a command under a name, with a tag that its calls are recorded by. -/
structure Registration (τ σ : Type) where
  tag : τ
  name : String
  description : String
  command : Command (StateM σ)

/-- What can be asked of a registry. -/
inductive Request (τ σ : Type) where
  | register (registration : Registration τ σ)
  | get (name : String)
  | list
  | execute (name : String) (view : View (StateM σ))

/-- What a registry answers. -/
inductive Reply (τ σ : Type) where
  | registered
  | found (command? : Option (RegisteredCommand (Watched τ σ)))
  | listed (entries : List (RegisteredCommand (Watched τ σ)))
  | executed (result : Except Failure Bool)

variable {τ σ : Type}

/-- The command of a registration, every call of it recorded. -/
def Registration.entry (r : Registration τ σ) : RegisteredCommand (Watched τ σ) where
  name := r.name
  description := r.description
  command := {
    isValid := fun view => Recorded.action (fun _ => .consulted r.tag)
      (r.command.isValid (Recorded.forgetView view))
    act := fun view => Recorded.action (fun _ => .ran r.tag)
      (r.command.act (Recorded.forgetView view)) }

/-- A journal, every record of it recorded. -/
def watched (journal : Journal (StateM σ)) : Journal (Watched τ σ) := fun record =>
  Recorded.action (fun _ => .noted record) (journal record)

/-- The registration that a request asks for, if it does. -/
def Request.registrations : Request τ σ → List (Registration τ σ)
  | register r => [r]
  | get _ | list | execute _ _ => []

/-- Serves a request: the answer, and the registry afterwards. -/
def serve (journal : Journal (StateM σ)) (registry : CommandRegistry (Watched τ σ)) :
    Request τ σ → Watched τ σ (Reply τ σ × CommandRegistry (Watched τ σ))
  | .register r => do
    (watched journal).all (registry.registerRecords r.name)
    return (.registered, registry.register r.entry)
  | .get name => return (.found (registry.get? name), registry)
  | .list => return (.listed registry.commands, registry)
  | .execute name view => do
    let result ← registry.execute (watched journal) name (Recorded.unrecordedView view)
    return (.executed result, registry)

/-- Serves one request after another. -/
def serveAll (journal : Journal (StateM σ)) (registry : CommandRegistry (Watched τ σ)) :
    List (Request τ σ) → Watched τ σ (CommandRegistry (Watched τ σ))
  | [] => return registry
  | request :: requests => do
    let (_, registry) ← serve journal registry request
    serveAll journal registry requests

/-! ## The last registrations -/

/-- The registrations that have no later one of the same name, in their order. -/
def current : List (Registration τ σ) → List (Registration τ σ)
  | [] => []
  | r :: later =>
    if later.any fun other => other.name == r.name then current later else r :: current later

/-- The last registration of a name. -/
def latest? (name : String) (registrations : List (Registration τ σ)) :
    Option (Registration τ σ) :=
  registrations.reverse.find? fun r => r.name == name

theorem current_sublist (registrations : List (Registration τ σ)) :
    (current registrations).Sublist registrations := by
  induction registrations with
  | nil => exact .slnil
  | cons r later ih =>
    rw [current]
    split
    · exact ih.cons r
    · exact ih.cons_cons r

/-- **No name is current twice.** -/
theorem nodup_name_current (registrations : List (Registration τ σ)) :
    ((current registrations).map Registration.name).Nodup := by
  induction registrations with
  | nil => exact .nil
  | cons r later ih =>
    rw [current]
    split
    · exact ih
    · next hlast =>
      rw [List.map_cons, List.nodup_cons]
      refine ⟨fun hmem => hlast ?_, ih⟩
      obtain ⟨other, hother, hname⟩ := List.mem_map.mp hmem
      rw [List.any_eq_true]
      exact ⟨other, (current_sublist later).mem hother, beq_iff_eq.mpr hname⟩

/-- **A registration goes to the end, and takes the earlier one of its name out.** -/
theorem current_concat (registrations : List (Registration τ σ)) (r : Registration τ σ) :
    current (registrations ++ [r]) =
      (current registrations).filter (fun other => other.name != r.name) ++ [r] := by
  induction registrations with
  | nil => rfl
  | cons first later ih =>
    rw [List.cons_append, current, current, ih, List.any_append]
    by_cases hname : r.name = first.name
    · -- the new registration is a later one of the name of the first
      have hany : (later.any (fun other => other.name == first.name) ||
          [r].any fun other => other.name == first.name) = true := by simp [hname]
      rw [if_pos hany]
      split
      · rfl
      · rw [List.filter_cons_of_neg (by simp [hname])]
    · have hany : [r].any (fun other => other.name == first.name) = false := by simp [hname]
      rw [hany, Bool.or_false]
      split
      · rfl
      · rw [List.filter_cons_of_pos (by simpa using Ne.symm hname), List.cons_append]

theorem latest?_concat (name : String) (registrations : List (Registration τ σ))
    (r : Registration τ σ) :
    latest? name (registrations ++ [r]) =
      if r.name = name then some r else latest? name registrations := by
  rw [latest?, List.reverse_concat]
  by_cases hname : r.name = name
  · rw [List.find?_cons_of_pos (by simpa using hname), if_pos hname]
  · rw [List.find?_cons_of_neg (by simpa using hname), if_neg hname, latest?]

theorem latest?_eq_none_iff {name : String} {registrations : List (Registration τ σ)} :
    latest? name registrations = none ↔ ∀ r ∈ registrations, r.name ≠ name := by
  simp [latest?]

/-- What is current under a name is its last registration. -/
theorem find?_current (name : String) (registrations : List (Registration τ σ)) :
    (current registrations).find? (fun r => r.name == name) = latest? name registrations := by
  induction registrations using List.reverseRecOn with
  | nil => rfl
  | append_singleton registrations r ih =>
    rw [current_concat, latest?_concat, List.find?_append]
    by_cases hname : r.name = name
    · -- nothing of that name is left of what was current before
      have hgone : ((current registrations).filter fun other => other.name != r.name).find?
          (fun other => other.name == name) = none := by
        rw [List.find?_eq_none]
        intro other hother
        simpa [hname] using (List.mem_filter.mp hother).2
      rw [hgone, if_pos hname, Option.none_or, List.find?_cons_of_pos (by simpa using hname)]
    · have hkept : ((current registrations).filter fun other => other.name != r.name).find?
          (fun other => other.name == name) = latest? name registrations := by
        rw [List.find?_filter, ← ih]
        refine congrArg (List.find? · (current registrations)) (funext fun other => ?_)
        by_cases hother : other.name = name
        · simp [hother, Ne.symm hname]
        · simp [hother]
      rw [hkept, if_neg hname, List.find?_cons_of_neg (by simpa using hname), List.find?_nil,
        Option.or_none]

/-! ## What the registry holds -/

/-- In a list whose keys are distinct, removing the first entry of a key removes every entry of
it. -/
theorem eraseP_eq_filter_of_nodup {α : Type} {key : α → String} {entries : List α}
    (h : (entries.map key).Nodup) (name : String) :
    entries.eraseP (fun other => key other == name) =
      entries.filter fun other => key other != name := by
  induction entries with
  | nil => rfl
  | cons entry entries ih =>
    rw [List.map_cons, List.nodup_cons] at h
    by_cases hname : key entry = name
    · have hother : ∀ other ∈ entries, (key other != name) = true := by
        intro other hmem
        have hne : key other ≠ key entry := fun he => h.1 (he ▸ List.mem_map_of_mem hmem)
        simpa [hname] using hne
      rw [List.eraseP_cons_of_pos (by simpa using hname),
        List.filter_cons_of_neg (by simpa using hname), List.filter_eq_self.mpr hother]
    · rw [List.eraseP_cons_of_neg (by simpa using hname),
        List.filter_cons_of_pos (by simpa using hname), ih h.2]

/-- A registry that was made by some registrations: it holds the current ones. -/
def Holds (registry : CommandRegistry (Watched τ σ)) (registrations : List (Registration τ σ)) :
    Prop :=
  registry.commands = (current registrations).map Registration.entry

variable {registry : CommandRegistry (Watched τ σ)} {registrations : List (Registration τ σ)}

theorem Holds.nodup_name (h : Holds registry registrations) :
    (registry.commands.map RegisteredCommand.name).Nodup := by
  rw [h, List.map_map]
  exact nodup_name_current registrations

theorem Holds.get?_eq (h : Holds registry registrations) (name : String) :
    registry.get? name = (latest? name registrations).map Registration.entry := by
  rw [CommandRegistry.get?, h, List.find?_map, ← find?_current]
  rfl

/-- Registering makes a registry of one registration more. -/
theorem Holds.register (h : Holds registry registrations) (r : Registration τ σ) :
    Holds (registry.register r.entry) (registrations ++ [r]) := by
  rw [Holds, CommandRegistry.register, eraseP_eq_filter_of_nodup h.nodup_name, current_concat,
    List.map_append, h, List.filter_map]
  rfl

/-- **How many commands are current.**  One registration more makes it one more, unless the name
was registered before. -/
theorem length_current_concat (registrations : List (Registration τ σ)) (r : Registration τ σ) :
    (current (registrations ++ [r])).length =
      if ∃ other ∈ registrations, other.name = r.name then (current registrations).length
      else (current registrations).length + 1 := by
  have hany : (current registrations).any (fun other => other.name == r.name) = true ↔
      ∃ other ∈ registrations, other.name = r.name := by
    rw [List.any_eq_true, ← List.find?_isSome, find?_current, Option.isSome_iff_ne_none, ne_eq,
      latest?_eq_none_iff]
    simp
  rw [current_concat, ← eraseP_eq_filter_of_nodup (nodup_name_current registrations),
    List.length_append, List.length_eraseP]
  split
  · next hmem =>
    have hpos : 0 < (current registrations).length := by
      obtain ⟨other, hother, -⟩ := List.any_eq_true.mp hmem
      exact List.length_pos_of_mem hother
    rw [if_pos (hany.mp hmem), List.length_singleton]
    omega
  · next hnone => rw [if_neg (mt hany.mpr hnone), List.length_singleton]

/-! ## What is answered -/

/-- What is reported about a command that takes the place of another. -/
def replacing (name : String) : LogRecord :=
  CommandRegistry.record .warn ("Replacing already registered command " ++ Text.quoted name)

/-- What is reported about every command that is registered. -/
def registering (name : String) : LogRecord :=
  CommandRegistry.record .debug ("Registering command " ++ Text.quoted name)

/-- What is reported about a name that is not registered. -/
def unknown (name : String) : LogRecord :=
  CommandRegistry.record .error ("Unknown command: " ++ Text.quoted name)

/-- What is reported about a command that is not valid. -/
def notValid (name : String) : LogRecord :=
  CommandRegistry.record .warn
    ("Command " ++ Text.quoted name ++ " is not valid for this view")

/-- A state after something was reported. -/
def note (journal : Journal (StateM σ)) (now : Recorded (Event τ) σ) (record : LogRecord) :
    Recorded (Event τ) σ :=
  now.after (journal record) (.noted record)

@[simp] theorem events_note (journal : Journal (StateM σ)) (now : Recorded (Event τ) σ)
    (record : LogRecord) :
    (note journal now record).events = now.events ++ [.noted record] := rfl

/-- What a registry answers to a request after some registrations, and the state it leaves.  The
only commands it ever calls are the last registrations of their names. -/
inductive Answers (journal : Journal (StateM σ)) (earlier : List (Registration τ σ))
    (now : Recorded (Event τ) σ) : Request τ σ → Reply τ σ → Recorded (Event τ) σ → Prop
  | registered {r : Registration τ σ} (h : ¬∃ other ∈ earlier, other.name = r.name) :
      Answers journal earlier now (.register r) .registered
        (note journal now (registering r.name))
  | replaced {r : Registration τ σ} (h : ∃ other ∈ earlier, other.name = r.name) :
      Answers journal earlier now (.register r) .registered
        (note journal (note journal now (replacing r.name)) (registering r.name))
  | found {name : String} :
      Answers journal earlier now (.get name)
        (.found ((latest? name earlier).map Registration.entry)) now
  | listed :
      Answers journal earlier now .list (.listed ((current earlier).map Registration.entry)) now
  | unknown {name : String} {view : View (StateM σ)} (h : latest? name earlier = none) :
      Answers journal earlier now (.execute name view) (.executed (.ok false))
        (note journal now (unknown name))
  | notValid {name : String} {view : View (StateM σ)} {r : Registration τ σ}
      (h : latest? name earlier = some r)
      (hvalid : ((r.command.isValid view).run now.state).1 = false) :
      Answers journal earlier now (.execute name view) (.executed (.ok false))
        (note journal (now.after (r.command.isValid view) (.consulted r.tag)) (notValid name))
  | ran {name : String} {view : View (StateM σ)} {r : Registration τ σ}
      {consulted : Recorded (Event τ) σ} (h : latest? name earlier = some r)
      (hvalid : ((r.command.isValid view).run now.state).1 = true)
      (hconsulted : consulted = now.after (r.command.isValid view) (.consulted r.tag)) :
      Answers journal earlier now (.execute name view)
        (.executed (((r.command.act view).run consulted.state).1.map fun _ => true))
        (consulted.after (r.command.act view) (.ran r.tag))

variable {journal : Journal (StateM σ)} {now : Recorded (Event τ) σ}

theorem registerRecords_eq (h : Holds registry registrations) (name : String) :
    registry.registerRecords name =
      if ∃ other ∈ registrations, other.name = name then [replacing name, registering name]
      else [registering name] := by
  have hsome : (registry.get? name).isSome = true ↔ ∃ other ∈ registrations, other.name = name := by
    rw [h.get?_eq, Option.isSome_map, Option.isSome_iff_ne_none, ne_eq, latest?_eq_none_iff]
    simp
  rw [CommandRegistry.registerRecords]
  by_cases hname : ∃ other ∈ registrations, other.name = name
  · simp only [hsome.mpr hname, if_true, if_pos hname]
    rfl
  · simp only [Bool.eq_false_iff.mpr (mt hsome.mp hname), Bool.false_eq_true, if_false,
      if_neg hname]
    rfl

/-- The answer is false for a name that was never registered and for a command that is not valid,
and for no other. -/
theorem Answers.ok_false_iff {name : String} {view : View (StateM σ)}
    {result : Except Failure Bool} {after : Recorded (Event τ) σ}
    (h : Answers journal registrations now (.execute name view) (.executed result) after) :
    result = .ok false ↔
      (∀ r ∈ registrations, r.name ≠ name) ∨
        ∃ r, latest? name registrations = some r ∧
          ((r.command.isValid view).run now.state).1 = false := by
  rw [← latest?_eq_none_iff]
  cases h with
  | unknown hlatest => exact ⟨fun _ => .inl hlatest, fun _ => rfl⟩
  | @notValid _ _ r hlatest hvalid => exact ⟨fun _ => .inr ⟨r, hlatest, hvalid⟩, fun _ => rfl⟩
  | @ran _ _ r consulted hlatest hvalid _ =>
    constructor
    · intro hfalse
      cases hact : ((r.command.act view).run consulted.state).1 <;>
        simp [hact, Except.map] at hfalse
    · rintro (hnone | ⟨other, hother, hinvalid⟩)
      · simp [hlatest] at hnone
      · cases hlatest.symm.trans hother
        simp [hvalid] at hinvalid

/-- **Executing a name** calls the last registration of it, and no other command. -/
theorem execute_answers (h : Holds registry registrations) (journal : Journal (StateM σ))
    (name : String) (view : View (StateM σ)) (now : Recorded (Event τ) σ) :
    ∃ result after,
      (registry.execute (watched journal) name (Recorded.unrecordedView view)).run now =
        pure (result, after) ∧
      Answers journal registrations now (.execute name view) (.executed result) after := by
  cases hlatest : latest? name registrations with
  | none =>
    have hget : registry.get? name = none := by rw [h.get?_eq, hlatest]; rfl
    refine ⟨.ok false, _, ?_, .unknown hlatest⟩
    rw [CommandRegistry.execute, hget]
    rfl
  | some r =>
    have hget : registry.get? name = some r.entry := by rw [h.get?_eq, hlatest]; rfl
    rw [CommandRegistry.execute, hget]
    have hask : (r.entry.command.isValid (Recorded.unrecordedView view)).run now =
        pure (((r.command.isValid view).run now.state).1,
          now.after (r.command.isValid view) (.consulted r.tag)) := rfl
    cases hvalid : ((r.command.isValid view).run now.state).1 with
    | false =>
      refine ⟨.ok false, _, ?_, .notValid hlatest hvalid⟩
      simp only [StateT.run_bind, hask, hvalid, pure_bind]
      rfl
    | true =>
      refine ⟨_, _, ?_, .ran hlatest hvalid rfl⟩
      generalize hconsulted : now.after (r.command.isValid view) (.consulted r.tag) = consulted
      have hrun : (r.entry.command.act (Recorded.unrecordedView view)).run consulted =
          pure (((r.command.act view).run consulted.state).1,
            consulted.after (r.command.act view) (.ran r.tag)) := rfl
      simp only [StateT.run_bind, hask, hvalid, hconsulted, pure_bind, if_true, hrun]
      cases ((r.command.act view).run consulted.state).1 <;> rfl

/-- **Serving a request.**  It is answered from the registrations so far, and the registry changes
only with a registration. -/
theorem serve_answers (h : Holds registry registrations) (journal : Journal (StateM σ))
    (request : Request τ σ) (now : Recorded (Event τ) σ) :
    ∃ reply next after, (serve journal registry request).run now = pure ((reply, next), after) ∧
      Answers journal registrations now request reply after ∧
      Holds next (registrations ++ request.registrations) ∧
      (request.registrations = [] → next = registry) := by
  cases request with
  | register r =>
    refine ⟨.registered, registry.register r.entry, ?_⟩
    by_cases hname : ∃ other ∈ registrations, other.name = r.name
    · refine ⟨_, ?_, .replaced hname, h.register r, nofun⟩
      rw [serve, registerRecords_eq h, if_pos hname]
      rfl
    · refine ⟨_, ?_, .registered hname, h.register r, nofun⟩
      rw [serve, registerRecords_eq h, if_neg hname]
      rfl
  | get name =>
    refine ⟨_, registry, now, rfl, ?_, ?_, fun _ => rfl⟩
    · rw [h.get?_eq]
      exact .found
    · rwa [Request.registrations, List.append_nil]
  | list =>
    refine ⟨_, registry, now, rfl, ?_, ?_, fun _ => rfl⟩
    · rw [h]
      exact .listed
    · rwa [Request.registrations, List.append_nil]
  | execute name view =>
    obtain ⟨result, after, hrun, hanswers⟩ := execute_answers h journal name view now
    refine ⟨.executed result, registry, after, ?_, hanswers, ?_, fun _ => rfl⟩
    · simp only [serve, StateT.run_bind, hrun, pure_bind]
      rfl
    · rwa [Request.registrations, List.append_nil]

/-! ## How often a command is replaced -/

/-- Whether an event is the warning that a command takes the place of another. -/
def isReplacing : Event τ → Bool
  | .noted record =>
    record.level == .warn && "Replacing".toList.isPrefixOf record.message.toList
  | _ => false

@[simp] theorem isReplacing_consulted (tag : τ) : isReplacing (.consulted tag) = false := rfl

@[simp] theorem isReplacing_ran (tag : τ) : isReplacing (.ran tag) = false := rfl

theorem isReplacing_noted (name : String) :
    isReplacing (.noted (replacing name) : Event τ) = true ∧
      isReplacing (.noted (registering name) : Event τ) = false ∧
      isReplacing (.noted (unknown name) : Event τ) = false ∧
      isReplacing (.noted (notValid name) : Event τ) = false := by
  simp only [isReplacing, replacing, registering, unknown, notValid, CommandRegistry.record,
    String.toList_append]
  exact ⟨rfl, rfl, rfl, rfl⟩

/-- **Commands and replacements.**  A registration makes the current commands one more or is
reported as a replacement; no other request does either. -/
theorem Answers.length_current {request : Request τ σ} {reply : Reply τ σ}
    {after : Recorded (Event τ) σ} (h : Answers journal registrations now request reply after) :
    (current (registrations ++ request.registrations)).length + after.events.countP isReplacing =
      (current registrations).length + now.events.countP isReplacing +
        request.registrations.length := by
  cases h with
  | @registered r hname =>
    obtain ⟨-, hregistering, -, -⟩ := @isReplacing_noted τ r.name
    simp only [Request.registrations, length_current_concat, if_neg hname, events_note,
      List.countP_append, List.countP_singleton, hregistering, List.length_singleton,
      Bool.false_eq_true, if_false]
    omega
  | @replaced r hname =>
    obtain ⟨hreplacing, hregistering, -, -⟩ := @isReplacing_noted τ r.name
    simp only [Request.registrations, length_current_concat, if_pos hname, events_note,
      List.countP_append, List.countP_singleton, hreplacing, hregistering, List.length_singleton,
      Bool.false_eq_true, if_true, if_false]
    omega
  | found | listed =>
    simp only [Request.registrations, List.append_nil, List.length_nil, Nat.add_zero]
  | @unknown name view _ =>
    obtain ⟨-, -, hunknown, -⟩ := @isReplacing_noted τ name
    simp [Request.registrations, List.countP_append, hunknown]
  | @notValid name view r _ _ =>
    obtain ⟨-, -, -, hnotValid⟩ := @isReplacing_noted τ name
    simp [Request.registrations, List.countP_append, hnotValid]
  | ran _ _ hconsulted =>
    simp [Request.registrations, List.countP_append, hconsulted]

/-! ## Sessions -/

/-- **What a session leaves.**  From a registry that some registrations have made, a session makes
the one that these and its own registrations make.  Every registration of the session is one more
command, or is reported as a replacement. -/
theorem serveAll_holds (h : Holds registry registrations) (journal : Journal (StateM σ))
    (requests : List (Request τ σ)) (now : Recorded (Event τ) σ) :
    ∃ next after, (serveAll journal registry requests).run now = pure (next, after) ∧
      Holds next (registrations ++ requests.flatMap Request.registrations) ∧
      (current (registrations ++ requests.flatMap Request.registrations)).length +
          after.events.countP isReplacing =
        (current registrations).length + now.events.countP isReplacing +
          (requests.flatMap Request.registrations).length := by
  induction requests generalizing registry registrations now with
  | nil =>
    refine ⟨registry, now, rfl, ?_, ?_⟩
    · rwa [List.flatMap_nil, List.append_nil]
    · rw [List.flatMap_nil, List.append_nil, List.length_nil, Nat.add_zero]
  | cons request requests ih =>
    obtain ⟨reply, next, between, hserve, hanswers, hnext, -⟩ := serve_answers h journal request now
    obtain ⟨last, after, hrun, hlast, hcount⟩ := ih hnext between
    have hlength := hanswers.length_current
    rw [List.append_assoc, ← List.flatMap_cons] at hlast hcount
    refine ⟨last, after, ?_, hlast, ?_⟩
    · simp only [serveAll, StateT.run_bind, hserve, pure_bind, hrun]
    · rw [List.flatMap_cons, List.length_append] at *
      omega

/-- **The registry is an ordered map, and registering a name again moves it to the end.**  After any
session of a new registry no name is in it twice, it holds the last registration of each name in the
order of these registrations, and as many commands are missing from it as were reported replaced.
The last registration of a name is what the name stands for, and what is called if the name is
executed, in whatever state of the surroundings; the registry is then left as it is.  The answer is
false exactly for a name that was never registered, and for a command that is not valid. -/
theorem serveAll_new (journal : Journal (StateM σ)) (requests : List (Request τ σ)) (start : σ) :
    ∃ (registry : CommandRegistry (Watched τ σ)) (reached : Recorded (Event τ) σ)
      (registrations : List (Registration τ σ)),
      registrations = requests.flatMap Request.registrations ∧
      (serveAll journal {} requests).run ⟨start, []⟩ = pure (registry, reached) ∧
      (registry.commands.map RegisteredCommand.name).Nodup ∧
      registry.commands = (current registrations).map Registration.entry ∧
      registry.commands.length + reached.events.countP isReplacing = registrations.length ∧
      ∀ (name : String) (view : View (StateM σ)) (now : Recorded (Event τ) σ),
        registry.get? name = (latest? name registrations).map Registration.entry ∧
        ∃ result after,
          (serve journal registry (.execute name view)).run now =
            pure ((.executed result, registry), after) ∧
          Answers journal registrations now (.execute name view) (.executed result) after ∧
          (result = .ok false ↔
            (∀ r ∈ registrations, r.name ≠ name) ∨
              ∃ r, latest? name registrations = some r ∧
                ((r.command.isValid view).run now.state).1 = false) := by
  have hnew : Holds ({} : CommandRegistry (Watched τ σ)) [] := rfl
  obtain ⟨registry, reached, hrun, hholds, hcount⟩ :=
    serveAll_holds hnew journal requests ⟨start, []⟩
  rw [List.nil_append] at hholds hcount
  refine ⟨registry, reached, _, rfl, hrun, hholds.nodup_name, hholds, ?_, fun name view now =>
    ⟨hholds.get?_eq name, ?_⟩⟩
  · rw [hholds, List.length_map, hcount]
    simp [current]
  · obtain ⟨result, after, hexecute, hanswers⟩ := execute_answers hholds journal name view now
    refine ⟨result, after, ?_, hanswers, hanswers.ok_false_iff⟩
    simp only [serve, StateT.run_bind, hexecute, pure_bind]
    rfl

end Registry
end OperandSearch
