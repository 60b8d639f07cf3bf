import OperandSearch.Proofs.DocumentText

/-!
# Reading a document back

A document is a tree, and written down it is a row of pieces (`atoms`).  A text is a way to write a
document if its pieces are those of the document, wherever there is space between them
(`IsWritten`).

The reader goes through the pieces from left to right.  What it reads is what was written
(`read?_eq_some_iff`), so no text is a way to write two documents.

The notation has other values too: truth values, an empty one, and numbers with a sign, a fraction
or an exponent.  They are in no document, and no text with one of them is read.
-/

namespace OperandSearch
namespace Document

/-! ## Parts with separators -/

theorem eq_intercalate {α β : Type} {write : List α → List β} {writeOne : α → List β}
    {separator : β}
    (hnil : write [] = [])
    (hcons : ∀ x xs, write (x :: xs) =
      writeOne x ++ if xs.isEmpty then [] else separator :: write xs) (xs : List α) :
    write xs = [separator].intercalate (xs.map writeOne) := by
  induction xs with
  | nil => exact hnil
  | cons x xs ih =>
    rw [hcons]
    cases xs with
    | nil => simp
    | cons y xs => simp [ih]

/-- Parts with separators between them start with the first part, and what follows it is no shorter
than the number of the other parts. -/
theorem intercalate_map_cons {α β : Type} (separator : β) (writeOne : α → List β) (x : α)
    (xs : List α) :
    ∃ later, [separator].intercalate ((x :: xs).map writeOne) = writeOne x ++ later ∧
      xs.length ≤ later.length := by
  induction xs generalizing x with
  | nil => exact ⟨[], by simp, le_rfl⟩
  | cons y xs ih =>
    obtain ⟨later, hlater, hlength⟩ := ih y
    refine ⟨separator :: (writeOne y ++ later), ?_, ?_⟩
    · rw [List.map_cons, List.intercalate_cons_of_ne_nil (by simp), hlater]
      simp
    · simp only [List.length_cons, List.length_append]
      omega

theorem length_le_intercalate {α β : Type} (separator : β) (writeOne : α → List β) {x : α}
    {xs : List α} (h : x ∈ xs) :
    (writeOne x).length ≤ ([separator].intercalate (xs.map writeOne)).length := by
  induction xs with
  | nil => cases h
  | cons y xs ih =>
    cases xs with
    | nil =>
      rw [List.mem_singleton.mp h]
      simp
    | cons z xs =>
      rw [List.map_cons, List.intercalate_cons_of_ne_nil (by simp), List.length_append,
        List.length_append]
      rcases List.mem_cons.mp h with rfl | h
      · omega
      · have hle := ih h
        omega

/-! ## The pieces of a document -/

mutual

/-- The pieces of a document. -/
def atoms : Document → List Atom
  | text s => [.text s]
  | number n => [.number n]
  | list items => .sign '[' :: itemAtoms items ++ [.sign ']']
  | object fields => .sign '\x7b' :: fieldAtoms fields ++ [.sign '\x7d']

/-- The pieces of items, with commas between them. -/
def itemAtoms : List Document → List Atom
  | [] => []
  | item :: rest => atoms item ++ if rest.isEmpty then [] else .sign ',' :: itemAtoms rest

/-- The pieces of fields, with commas between them. -/
def fieldAtoms : List (String × Document) → List Atom
  | [] => []
  | (key, value) :: rest =>
    .text key :: .sign ':' :: atoms value ++
      if rest.isEmpty then [] else .sign ',' :: fieldAtoms rest

end

/-- A text is a way to write a document. -/
def IsWritten (d : Document) (text : String) : Prop :=
  Spells text.toList d.atoms

theorem itemAtoms_eq (items : List Document) :
    itemAtoms items = [.sign ','].intercalate (items.map atoms) :=
  eq_intercalate rfl (fun _ _ => by rw [itemAtoms]) items

/-- The pieces of one field. -/
def fieldAtom (field : String × Document) : List Atom :=
  .text field.1 :: .sign ':' :: atoms field.2

theorem fieldAtoms_eq (fields : List (String × Document)) :
    fieldAtoms fields = [.sign ','].intercalate (fields.map fieldAtom) :=
  eq_intercalate rfl (fun _ _ => by rw [fieldAtoms, fieldAtom]) fields

/-! ## Reading pieces -/

section Series

variable {α : Type} (readOne : List Atom → Option (α × List Atom)) (closing : Char)

/-- Reads one or more things with commas between them, and the sign behind them. -/
def readSeries? : ℕ → List Atom → Option (List α × List Atom)
  | 0, _ => none
  | fuel + 1, atoms => do
    let (one, rest) ← readOne atoms
    if rest.head? = some (.sign ',') then
      let (more, rest) ← readSeries? fuel rest.tail
      return (one :: more, rest)
    else if rest.head? = some (.sign closing) then return ([one], rest.tail)
    else none

/-- Reads things with commas between them, if there are any, and the sign behind them. -/
def readAll? (atoms : List Atom) : Option (List α × List Atom) :=
  if atoms.head? = some (.sign closing) then some ([], atoms.tail)
  else readSeries? readOne closing atoms.length atoms

variable {readOne closing} {writeOne : α → List Atom}

theorem eq_of_readSeries? (hone : ∀ {atoms x rest}, readOne atoms = some (x, rest) →
      atoms = writeOne x ++ rest) {fuel : ℕ} {atoms rest : List Atom} {xs : List α}
    (h : readSeries? readOne closing fuel atoms = some (xs, rest)) :
    xs ≠ [] ∧ atoms = [.sign ','].intercalate (xs.map writeOne) ++ .sign closing :: rest := by
  induction fuel generalizing atoms xs with
  | zero => cases h
  | succ fuel ih =>
    simp only [readSeries?, Option.bind_eq_bind, Option.bind_eq_some_iff, Prod.exists] at h
    obtain ⟨x, behind, hx, h⟩ := h
    rw [hone hx]
    split at h
    · next hcomma =>
      simp only [Option.bind_eq_some_iff, Prod.exists] at h
      obtain ⟨more, left, hmore, h⟩ := h
      cases h
      obtain ⟨hne, htail⟩ := ih hmore
      refine ⟨List.cons_ne_nil _ _, ?_⟩
      rw [← List.cons_head?_tail hcomma, htail, List.map_cons,
        List.intercalate_cons_of_ne_nil (by simpa using hne)]
      simp
    · split at h
      · next hclosing =>
        cases h
        refine ⟨List.cons_ne_nil _ _, ?_⟩
        rw [List.map_singleton, List.intercalate_singleton, List.cons_head?_tail hclosing]
      · cases h

/-- **What was written with commas is read**, if each part is. -/
theorem readSeries?_intercalate {xs : List α} (hne : xs ≠ []) (hclosing : closing ≠ ',')
    (hone : ∀ x ∈ xs, ∀ rest, readOne (writeOne x ++ rest) = some (x, rest)) {fuel : ℕ}
    (hfuel : xs.length ≤ fuel) (rest : List Atom) :
    readSeries? readOne closing fuel
      ([.sign ','].intercalate (xs.map writeOne) ++ .sign closing :: rest) = some (xs, rest) := by
  induction xs generalizing fuel with
  | nil => exact absurd rfl hne
  | cons x xs ih =>
    rw [List.forall_mem_cons] at hone
    obtain ⟨fuel, rfl⟩ : ∃ k, fuel = k + 1 :=
      Nat.exists_eq_succ_of_ne_zero (Nat.ne_of_gt (Nat.lt_of_lt_of_le (Nat.succ_pos _) hfuel))
    cases xs with
    | nil =>
      rw [List.map_singleton, List.intercalate_singleton, readSeries?, hone.1]
      simp [hclosing]
    | cons y xs =>
      have hmore := ih (List.cons_ne_nil _ _) hone.2 (Nat.le_of_succ_le_succ hfuel)
      rw [List.map_cons, List.intercalate_cons_of_ne_nil (by simp), List.append_assoc,
        List.append_assoc, readSeries?, hone.1]
      rw [List.map_cons] at hmore
      simp [hmore]

variable (closing) in
/-- **Whatever was written with commas is read**, also if it is nothing. -/
theorem readAll?_intercalate {xs : List α} (hclosing : closing ≠ ',')
    (hone : ∀ x ∈ xs, ∀ rest, readOne (writeOne x ++ rest) = some (x, rest))
    (hstart : ∀ x ∈ xs, ∃ first later, writeOne x = first :: later ∧ first ≠ .sign closing)
    (rest : List Atom) :
    readAll? readOne closing
      ([.sign ','].intercalate (xs.map writeOne) ++ .sign closing :: rest) = some (xs, rest) := by
  rw [readAll?]
  cases xs with
  | nil => exact if_pos rfl
  | cons x xs =>
    obtain ⟨first, later, hfirst, hne⟩ := hstart x List.mem_cons_self
    obtain ⟨others, hothers, hlength⟩ := intercalate_map_cons (.sign ',') writeOne x xs
    have hhead : ([.sign ','].intercalate ((x :: xs).map writeOne) ++ .sign closing :: rest).head? ≠
        some (.sign closing) := by
      rw [hothers, hfirst]
      simpa using hne
    rw [if_neg hhead]
    refine readSeries?_intercalate (List.cons_ne_nil _ _) hclosing hone ?_ rest
    rw [hothers, hfirst]
    simp only [List.length_append, List.length_cons]
    omega

theorem eq_of_readAll? (hone : ∀ {atoms x rest}, readOne atoms = some (x, rest) →
      atoms = writeOne x ++ rest) {atoms rest : List Atom} {xs : List α}
    (h : readAll? readOne closing atoms = some (xs, rest)) :
    atoms = [.sign ','].intercalate (xs.map writeOne) ++ .sign closing :: rest := by
  rw [readAll?] at h
  split at h
  · next hclosing =>
    cases h
    exact (List.cons_head?_tail hclosing).symm
  · exact (eq_of_readSeries? hone h).2

end Series

/-- Reads a field, if there is a way to read its value. -/
def readField? (readValue : List Atom → Option (Document × List Atom)) :
    List Atom → Option ((String × Document) × List Atom)
  | .text key :: .sign ':' :: atoms => do
    let (value, rest) ← readValue atoms
    return ((key, value), rest)
  | _ => none

/-- Reads a document, down to a depth. -/
def readValue? : ℕ → List Atom → Option (Document × List Atom)
  | _ + 1, .text s :: rest => some (.text s, rest)
  | _ + 1, .number n :: rest => some (.number n, rest)
  | fuel + 1, .sign '[' :: atoms => do
    let (items, rest) ← readAll? (readValue? fuel) ']' atoms
    return (.list items, rest)
  | fuel + 1, .sign '\x7b' :: atoms => do
    let (fields, rest) ← readAll? (readField? (readValue? fuel)) '\x7d' atoms
    return (.object fields, rest)
  | _, _ => none

theorem eq_of_readField? {readValue : List Atom → Option (Document × List Atom)}
    (hvalue : ∀ {atoms d rest}, readValue atoms = some (d, rest) → atoms = d.atoms ++ rest)
    {atoms rest : List Atom} {field : String × Document}
    (h : readField? readValue atoms = some (field, rest)) : atoms = fieldAtom field ++ rest := by
  rw [readField?.eq_def] at h
  split at h
  · simp only [Option.bind_eq_bind, Option.bind_eq_some_iff, Prod.exists] at h
    obtain ⟨value, left, hread, h⟩ := h
    cases h
    rw [hvalue hread]
    rfl
  · cases h

/-- **Only the pieces of a document are read as one.** -/
theorem eq_of_readValue? {fuel : ℕ} {atoms rest : List Atom} {d : Document}
    (h : readValue? fuel atoms = some (d, rest)) : atoms = d.atoms ++ rest := by
  induction fuel generalizing atoms d rest with
  | zero => cases h
  | succ fuel ih =>
    rw [readValue?.eq_def] at h
    split at h
    · cases h
      rfl
    · cases h
      rfl
    · next fuel' inside hfuel =>
      cases hfuel
      simp only [Option.bind_eq_bind, Option.bind_eq_some_iff, Prod.exists] at h
      obtain ⟨items, left, hread, h⟩ := h
      cases h
      rw [eq_of_readAll? ih hread, Document.atoms, itemAtoms_eq]
      simp
    · next fuel' inside hfuel =>
      cases hfuel
      simp only [Option.bind_eq_bind, Option.bind_eq_some_iff, Prod.exists] at h
      obtain ⟨fields, left, hread, h⟩ := h
      cases h
      rw [eq_of_readAll? (eq_of_readField? ih) hread, Document.atoms, fieldAtoms_eq]
      simp
    · cases h

/-- A document starts with a piece that ends none. -/
theorem exists_atoms_eq_cons (d : Document) :
    ∃ first later, d.atoms = first :: later ∧ first ≠ .sign ']' := by
  cases d <;> exact ⟨_, _, rfl, by simp⟩

/-- **The pieces of a document are read**, whatever follows them. -/
theorem readValue?_atoms {fuel : ℕ} {d : Document} (h : d.atoms.length ≤ fuel) (rest : List Atom) :
    readValue? fuel (d.atoms ++ rest) = some (d, rest) := by
  induction fuel generalizing d rest with
  | zero =>
    obtain ⟨first, later, hatoms, -⟩ := exists_atoms_eq_cons d
    rw [hatoms] at h
    cases h
  | succ fuel ih =>
    cases d with
    | text s => rfl
    | number n => rfl
    | list items =>
      rw [atoms, itemAtoms_eq] at h ⊢
      simp only [List.length_append, List.length_cons] at h
      -- an item has fewer pieces than the list, so the depth is enough for it
      have hone : ∀ item ∈ items, ∀ rest,
          readValue? fuel (item.atoms ++ rest) = some (item, rest) := by
        intro item hitem rest
        have hle := length_le_intercalate (.sign ',') atoms hitem
        exact ih (by omega) rest
      have hread := readAll?_intercalate ']' (by decide) hone
        (fun item _ => exists_atoms_eq_cons item) rest
      rw [List.cons_append, List.cons_append, List.append_assoc, List.singleton_append, readValue?,
        hread]
      rfl
    | object fields =>
      rw [atoms, fieldAtoms_eq] at h ⊢
      simp only [List.length_append, List.length_cons] at h
      have hone : ∀ field ∈ fields, ∀ rest,
          readField? (readValue? fuel) (fieldAtom field ++ rest) = some (field, rest) := by
        intro field hfield rest
        have hle := length_le_intercalate (.sign ',') fieldAtom hfield
        simp only [fieldAtom, List.length_cons] at hle
        rw [fieldAtom, List.cons_append, List.cons_append, readField?, ih (by omega) rest]
        rfl
      have hread := readAll?_intercalate '\x7d' (by decide) hone
        (fun field _ => ⟨_, _, rfl, by simp⟩) rest
      rw [List.cons_append, List.cons_append, List.append_assoc, List.singleton_append, readValue?,
        hread]
      rfl

/-! ## Reading texts -/

/-- Reads a document. -/
def read? (text : String) : Option Document := do
  let atoms ← lex? text.toList
  let (d, rest) ← readValue? atoms.length atoms
  if rest.isEmpty then some d else none

/-- **What is read was written.**  A text is read as a document exactly if it is a way to write it,
so it is a way to write one document at most. -/
theorem read?_eq_some_iff {text : String} {d : Document} :
    read? text = some d ↔ d.IsWritten text := by
  simp only [read?, Option.bind_eq_bind, Option.bind_eq_some_iff, Prod.exists, lex?_eq_some_iff]
  constructor
  · rintro ⟨atoms, hatoms, e, rest, hread, h⟩
    split at h
    · next hrest =>
      cases h
      rw [List.isEmpty_iff] at hrest
      rw [eq_of_readValue? hread, hrest, List.append_nil] at hatoms
      exact hatoms
    · cases h
  · intro h
    refine ⟨d.atoms, h, d, [], ?_, rfl⟩
    have hread := readValue?_atoms (le_refl d.atoms.length) []
    rwa [List.append_nil] at hread

end Document
end OperandSearch
