import OperandSearch.Command

/-!
# Keeping a record of what happens

What a program does to its surroundings is more than the state it leaves: it matters what was
called, how often, and in which order.  Surroundings that are a state of any type `σ` and actions on
it are turned here into surroundings that also keep a record, a list of events that each action
makes longer at its end (`Recorded.action`).  The actions themselves stay what they are: they work
on the state alone, cannot see the record, and give the same results.
-/

namespace OperandSearch

/-- A state together with what has happened so far. -/
structure Recorded (ε σ : Type) where
  state : σ
  events : List ε := []

namespace Recorded

variable {ε σ α : Type}

/-- A state after an action, which was recorded as an event. -/
def after (now : Recorded ε σ) (x : StateM σ α) (event : ε) : Recorded ε σ where
  state := (x.run now.state).2
  events := now.events ++ [event]

/-- A state after an action of which there is no record. -/
def silently (now : Recorded ε σ) (x : StateM σ α) : Recorded ε σ where
  state := (x.run now.state).2
  events := now.events

/-- An action on the state that is recorded as an event, which may tell its result. -/
def action (event : α → ε) (x : StateM σ α) : StateM (Recorded ε σ) α := fun now =>
  pure ((x.run now.state).1, now.after x (event (x.run now.state).1))

/-- An action on the state of which there is no record. -/
def unrecorded (x : StateM σ α) : StateM (Recorded ε σ) α := fun now =>
  pure ((x.run now.state).1, now.silently x)

/-- Puts an event on the record. -/
def note (event : ε) : StateM (Recorded ε σ) Unit := fun now =>
  pure ((), { now with events := now.events ++ [event] })

/-- An action as it is without a record. -/
def forget (x : StateM (Recorded ε σ) α) : StateM σ α := fun s =>
  pure ((x.run ⟨s, []⟩).1, (x.run ⟨s, []⟩).2.state)

/-- A view that is used without a record. -/
def unrecordedView (view : View (StateM σ)) : View (StateM (Recorded ε σ)) where
  functions := view.functions
  showPage title html plaintext := unrecorded (view.showPage title html plaintext)
  showReport report := unrecorded (view.showReport report)

/-- A view as it is without a record. -/
def forgetView (view : View (StateM (Recorded ε σ))) : View (StateM σ) where
  functions := view.functions
  showPage title html plaintext := forget (view.showPage title html plaintext)
  showReport report := forget (view.showReport report)

@[simp] theorem forgetView_unrecordedView (view : View (StateM σ)) :
    forgetView (unrecordedView view : View (StateM (Recorded ε σ))) = view := rfl

@[simp] theorem run_action (event : α → ε) (x : StateM σ α) (now : Recorded ε σ) :
    (action event x).run now =
      pure ((x.run now.state).1, now.after x (event (x.run now.state).1)) := rfl

@[simp] theorem run_unrecorded (x : StateM σ α) (now : Recorded ε σ) :
    (unrecorded x).run now = pure ((x.run now.state).1, now.silently x) := rfl

@[simp] theorem events_after (now : Recorded ε σ) (x : StateM σ α) (event : ε) :
    (now.after x event).events = now.events ++ [event] := rfl

@[simp] theorem events_silently (now : Recorded ε σ) (x : StateM σ α) :
    (now.silently x).events = now.events := rfl

/-! ## Recorded and unrecorded -/

/-- An action whose events are recorded gives a result and makes the record longer by some events.
The action without a record gives the same result and leaves the same state. -/
structure Traces (recorded : StateM (Recorded ε σ) α) (plain : StateM σ α) (now : Recorded ε σ)
    (result : α) (events : List ε) (after : Recorded ε σ) : Prop where
  run : recorded.run now = pure (result, after)
  run_plain : plain.run now.state = pure (result, after.state)
  events : after.events = now.events ++ events

namespace Traces

variable {β : Type} {now middle after : Recorded ε σ} {events front back : List ε}

theorem pure (result : α) (now : Recorded ε σ) :
    Traces (Pure.pure result) (Pure.pure result) now result [] now :=
  ⟨rfl, rfl, (List.append_nil _).symm⟩

theorem action (event : α → ε) (x : StateM σ α) (now : Recorded ε σ) :
    Traces (Recorded.action event x) x now (x.run now.state).1 [event (x.run now.state).1]
      (now.after x (event (x.run now.state).1)) :=
  ⟨rfl, rfl, rfl⟩

theorem bind {recorded : StateM (Recorded ε σ) α} {plain : StateM σ α}
    {recordedNext : α → StateM (Recorded ε σ) β} {plainNext : α → StateM σ β} {a : α} {b : β}
    (h : Traces recorded plain now a front middle)
    (hnext : Traces (recordedNext a) (plainNext a) middle b back after) :
    Traces (recorded >>= recordedNext) (plain >>= plainNext) now b (front ++ back) after where
  run := by rw [StateT.run_bind, h.run, pure_bind, hnext.run]
  run_plain := by rw [StateT.run_bind, h.run_plain, pure_bind, hnext.run_plain]
  events := by rw [hnext.events, h.events, List.append_assoc]

theorem returning {recorded : StateM (Recorded ε σ) α} {plain : StateM σ α}
    {recordedNext : α → StateM (Recorded ε σ) β} {plainNext : α → StateM σ β} {a : α} {b : β}
    (h : Traces recorded plain now a events after) (hrecorded : recordedNext a = Pure.pure b)
    (hplain : plainNext a = Pure.pure b) :
    Traces (recorded >>= recordedNext) (plain >>= plainNext) now b events after where
  run := by rw [StateT.run_bind, h.run, pure_bind, hrecorded]; rfl
  run_plain := by rw [StateT.run_bind, h.run_plain, pure_bind, hplain]; rfl
  events := h.events

theorem unrecorded {rest : StateM (Recorded ε σ) α} {plainRest : StateM σ α} {a : α}
    (x : StateM σ β) (h : Traces rest plainRest (now.silently x) a events after) :
    Traces (Recorded.unrecorded x >>= fun _ => rest) (x >>= fun _ => plainRest) now a events
      after where
  run := h.run
  run_plain := h.run_plain
  events := h.events

end Traces
end Recorded
end OperandSearch
