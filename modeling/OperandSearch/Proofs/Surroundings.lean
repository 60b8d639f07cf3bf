import OperandSearch.Console.World
import OperandSearch.Proofs.Sections

/-!
# Surroundings, as far as they can be seen

What a run does to its surroundings is said here for any terminal, not for one in particular.
Its states are of any type; what counts is what can be seen of a state, a *scene*: the input that
is left, what stands on the two streams, and the files.  A terminal is *faithful* if each of its
actions changes in the scene what it is for and nothing else (`Terminal.Faithful`).  The clock may
say what it likes.

The files of a scene are of any type too.  A *disk* says how they are read and written by path.  A
write may fail, and may then leave anything, and what is written need not be what is read: only
where a path is written as a whole or not at all (`Disk.AtomicAt`) can more be said.  In the same
way a text may fail to be printed.  What then stands on the stream is open, unless an *outlet*
decides it from what stood there before (`Terminal.PrintsBy`).

Statements about programs have the form `Leads see x s a scene`: started in the state `s`, the
program `x` gives `a`, and what can be seen afterwards is `scene`.  They are put together along
the program by `Leads.bind`, where what comes behind may be about any state that shows the scene in
between.

The last section is about one terminal, that of `World`, which is faithful.
-/

namespace OperandSearch

/-! ## Scenes -/

/-- What can be seen of the surroundings of a run. -/
structure Scene (φ : Type) where
  input : List UInt8
  /-- The stream of results. -/
  output : String
  /-- The stream of messages. -/
  messages : String
  files : φ

namespace Scene

variable {φ : Type}

/-- The next line of an input, if there is one, and the input behind it. -/
def nextLine : List UInt8 → Option (List UInt8) × List UInt8
  | [] => (none, [])
  | b :: input => (some (World.splitLine (b :: input)).1, (World.splitLine (b :: input)).2)

/-- The scene with a text behind its results. -/
def print (scene : Scene φ) (text : String) : Scene φ :=
  { scene with output := scene.output ++ text }

/-- The scene with a text behind its messages. -/
def tell (scene : Scene φ) (text : String) : Scene φ :=
  { scene with messages := scene.messages ++ text }

@[simp] theorem tell_tell (scene : Scene φ) (first second : String) :
    (scene.tell first).tell second = scene.tell (first ++ second) := by
  simp only [tell, String.append_assoc]

@[simp] theorem tell_empty (scene : Scene φ) : scene.tell "" = scene := by
  simp only [tell, String.append_empty]

@[simp] theorem print_empty (scene : Scene φ) : scene.print "" = scene := by
  simp only [print, String.append_empty]

@[simp] theorem messages_tell (scene : Scene φ) (text : String) :
    (scene.tell text).messages = scene.messages ++ text := rfl

end Scene

/-- How files are read and written by path. -/
structure Disk (φ : Type) where
  read : (files : φ) → (path : String) → Except FileFault ByteArray
  /-- What is found if the file is mapped into memory. -/
  map : (files : φ) → (path : String) → Except FileFault ByteArray
  /-- What comes of a write, and the files behind it. -/
  write : (files : φ) → (path content : String) → Except FileFault Unit × φ

/-- A path is written as a whole, so that what was written is read there, or not at all. -/
structure Disk.AtomicAt {φ : Type} (disk : Disk φ) (path : String) : Prop where
  read_of_ok : ∀ {files after : φ} {content : String},
    disk.write files path content = (.ok (), after) → disk.read after path = .ok content.toUTF8
  eq_of_error : ∀ {files after : φ} {content : String} {fault : FileFault},
    disk.write files path content = (.error fault, after) → after = files

/-- What comes of printing a text on a stream, and what stands on the stream behind it. -/
abbrev Outlet :=
  (output text : String) → Except FileFault Unit × String

/-- The outlet on which everything can be printed. -/
def Outlet.reliable : Outlet := fun output text => (.ok (), output ++ text)

/-- The outlet on which nothing can be printed. -/
def Outlet.closed (fault : FileFault) : Outlet := fun output _ => (.error fault, output)

/-! ## What a program leads to -/

section Leads

variable {σ φ α β : Type} {see : σ → Scene φ} {s : σ}

/-- Started in a state, a program gives a result and leaves a state that shows a scene. -/
def Leads (see : σ → Scene φ) (x : StateM σ α) (s : σ) (a : α) (after : Scene φ) : Prop :=
  ∃ s', x.run s = pure (a, s') ∧ see s' = after

theorem Leads.pure {a : α} {after : Scene φ} (h : see s = after) :
    Leads see (Pure.pure a) s a after :=
  ⟨s, rfl, h⟩

theorem Leads.of_run {x : StateM σ α} {k : α → StateM σ β} {a : α} {b : β} {s' : σ}
    {after : Scene φ} (hx : x.run s = Pure.pure (a, s')) (hk : Leads see (k a) s' b after) :
    Leads see (x >>= k) s b after := by
  obtain ⟨t, hrun, hafter⟩ := hk
  refine ⟨t, ?_, hafter⟩
  rw [StateT.run_bind, hx, pure_bind]
  exact hrun

/-- **One program behind another**: the second goes on from the scene that the first leaves. -/
theorem Leads.bind {x : StateM σ α} {k : α → StateM σ β} {a : α} {b : β} {between after : Scene φ}
    (hx : Leads see x s a between)
    (hk : ∀ s', see s' = between → Leads see (k a) s' b after) : Leads see (x >>= k) s b after := by
  obtain ⟨s', hrun, hsee⟩ := hx
  exact .of_run hrun (hk s' hsee)

end Leads

/-! ## Faithful terminals -/

/-- A terminal whose actions do what they are for, as far as can be seen.  A text that cannot be
printed may leave anything behind the results. -/
structure Terminal.Faithful {σ φ : Type} (terminal : Terminal (StateM σ)) (disk : Disk φ)
    (see : σ → Scene φ) : Prop where
  readLine : ∀ s, Leads see terminal.readLine s (Scene.nextLine (see s).input).1
    { see s with input := (Scene.nextLine (see s).input).2 }
  print : ∀ text s, ∃ result printed, (result = .ok () → printed = text) ∧
    Leads see (terminal.print text) s result ((see s).print printed)
  complain : ∀ text s, Leads see (terminal.complain text) s () ((see s).tell text)
  mapFile : ∀ path s, Leads see (terminal.mapFile path) s (disk.map (see s).files path) (see s)
  writeFile : ∀ path content s,
    Leads see (terminal.writeFile path content) s (disk.write (see s).files path content).1
      { see s with files := (disk.write (see s).files path content).2 }
  clock : ∀ s, ∃ n, Leads see terminal.clock s n (see s)

/-- What comes of printing is decided by what stands on the stream of results. -/
def Terminal.PrintsBy {σ φ : Type} (terminal : Terminal (StateM σ)) (outlet : Outlet)
    (see : σ → Scene φ) : Prop :=
  ∀ text s, Leads see (terminal.print text) s (outlet (see s).output text).1
    { see s with output := (outlet (see s).output text).2 }

/-! ## Files by name -/

namespace Files

/-- A walk that reaches a place goes through no file, so it reaches the place whatever the files
are. -/
theorem walk_eq_ok {files : Files} (others : Files) {home : Directory} {names : List String}
    {place : Place} (h : files.walk home names = .ok place) :
    others.walk home names = .ok place := by
  induction names generalizing home with
  | nil => exact h
  | cons name rest ih =>
    rw [walk] at h ⊢
    split
    · next hdot =>
      rw [if_pos hdot] at h
      exact ih h
    · next hdot =>
      rw [if_neg hdot] at h
      split
      · next hup =>
        rw [if_pos hup] at h
        exact ih h
      · next hup =>
        rw [if_neg hup] at h
        cases hchild : home.child? name with
        | some child =>
          rw [hchild] at h
          exact ih h
        | none =>
          simp only [hchild] at h ⊢
          split
          · next hlast => rwa [if_pos hlast] at h
          · next hlast =>
            rw [if_neg hlast] at h
            split at h <;> cases h

theorem place_eq_ok {files : Files} (others : Files) {path : String} {place : Place}
    (h : files.place path = .ok place) : others.place path = .ok place := by
  rw [Files.place] at h ⊢
  split
  · next hzero =>
    rw [if_pos hzero] at h
    cases h
  · next hzero =>
    rw [if_neg hzero] at h
    split
    · next hempty =>
      rw [if_pos hempty] at h
      cases h
    · next hempty =>
      rw [if_neg hempty] at h
      split
      · next hlong =>
        rw [if_pos hlong] at h
        cases h
      · next hlong =>
        rw [if_neg hlong] at h
        exact walk_eq_ok others h

theorem lookup_put (files : Files) (name : String) (content : ByteArray) :
    (files.put name content).lookup name = some content := by
  induction files with
  | nil => simp [put]
  | cons file rest ih =>
    rw [put]
    by_cases hname : file.1 = name
    · simp [hname]
    · have hother : (name == file.1) = false := beq_eq_false_iff_ne.mpr (Ne.symm hname)
      rw [if_neg hname, List.lookup_cons, hother]
      exact ih

theorem readFile_of_writeFile {files after : Files} {path name content : String}
    (hplace : files.place path = .ok (.entry .working name))
    (h : files.writeFile path content = .ok after) : after.readFile path = .ok content.toUTF8 := by
  simp only [writeFile, hplace, bind, Except.bind] at h
  split at h
  · cases h
  · next hslash =>
    split at h
    · cases h
    · next held hheld =>
      cases h
      -- the name is short enough, since something was looked up there before the write
      have hshort : ¬nameLimit < name.utf8ByteSize := by
        intro hlong
        rw [heldAt?, if_pos hlong] at hheld
        cases hheld
      have hentry : (files.put name content.toUTF8).heldAt? .working name =
          .ok (some content.toUTF8) := by
        rw [heldAt?, if_neg hshort, lookup_put]
      refine except_bind_eq_ok_iff.mpr ⟨_, place_eq_ok _ hplace, ?_⟩
      exact except_bind_eq_ok_iff.mpr ⟨_, hentry, if_neg hslash⟩

end Files

/-! ## A world as surroundings -/

namespace World

/-- What can be seen of a world. -/
def scene (world : World) : Scene Files where
  input := world.input
  output := world.output
  messages := world.messages
  files := world.files

/-- The files of a world.  A write that fails does nothing. -/
def disk : Disk Files where
  read := Files.readFile
  map := Files.mapFile
  write files path content :=
    match files.writeFile path content with
    | .ok after => (.ok (), after)
    | .error fault => (.error fault, files)

/-- A path of the working directory is written as a whole or not at all. -/
theorem atomicAt_disk {path name : String}
    (hplace : Files.place [] path = .ok (.entry .working name)) : disk.AtomicAt path where
  read_of_ok := by
    intro files after content h
    simp only [disk] at h
    split at h
    · next written hwrite =>
      cases h
      exact Files.readFile_of_writeFile (Files.place_eq_ok files hplace) hwrite
    · cases h
  eq_of_error := by
    intro files after content fault h
    simp only [disk] at h
    split at h <;> cases h
    rfl

theorem run_writeFile (world : World) (path content : String) :
    (terminal.writeFile path content).run world =
      (pure ((disk.write world.files path content).1,
        { world with files := (disk.write world.files path content).2 }) : Id _) := by
  simp only [terminal, disk, StateT.run_bind, StateT.run_get, pure_bind]
  cases world.files.writeFile path content <;> rfl

/-- **The terminal of a world is faithful.** -/
theorem faithful_terminal : terminal.Faithful disk scene where
  readLine world := by
    have hrun : terminal.readLine.run world = pure (nextLine world) := rfl
    obtain ⟨input, output, messages, files⟩ := world
    cases input with
    | nil => exact ⟨_, hrun, rfl⟩
    | cons b input => exact ⟨_, hrun, rfl⟩
  print text world := ⟨.ok (), text, fun _ => rfl, _, rfl, rfl⟩
  complain text world := ⟨_, rfl, rfl⟩
  mapFile path world := ⟨_, rfl, rfl⟩
  writeFile path content world := ⟨_, run_writeFile world path content, rfl⟩
  clock world := ⟨0, world, rfl, rfl⟩

theorem printsBy_terminal : terminal.PrintsBy .reliable scene :=
  fun _ _ => ⟨_, rfl, rfl⟩

end World
end OperandSearch
