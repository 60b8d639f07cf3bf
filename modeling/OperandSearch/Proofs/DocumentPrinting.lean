import OperandSearch.Proofs.DocumentReading

/-!
# Printing a document

Both printers write documents in the sense of `IsWritten`, the one without any space and the other
with one item or field a line.  So the two layouts of a document are read as the same.

A piece that is printed stands in front of other pieces, and that needs no care unless it is a
number: then no digit may follow.  `Writes` says that some characters write some pieces in front of
anything that starts with no digit.  In either layout what follows a number is a sign or a space.
-/

namespace OperandSearch
namespace Document

/-! ## Texts and numbers -/

theorem isUnit_escapeDigits {n : ℕ} (h : n < 0x10000) : IsUnit n (escapeDigits n) := by
  obtain ⟨hdigits, hvalue⟩ := Numeral.value_toDigits .hexadecimal n
  have hlength : (Nat.toDigits 16 n).length ≤ 4 :=
    (Nat.length_toDigits_le_iff (by decide) (by decide)).mpr h
  refine ⟨?_, fun c hc => ?_, ?_⟩
  · rw [escapeDigits, List.length_append, List.length_replicate]
    omega
  · rcases List.mem_append.mp hc with hc | hc
    · rw [List.eq_of_mem_replicate hc]
      decide
    · exact hdigits c hc
  · rw [escapeDigits, Numeral.value_replicate_zero_append]
    exact hvalue

theorem spellsChar_escapeChar (c : Char) : SpellsChar (escapeChar c) c := by
  have short {letter d : Char} (h : (letter, d) ∈ shortEscapes) (hc : c = d) :
      SpellsChar ['\\', letter] c := hc ▸ .short h
  rw [escapeChar]
  split_ifs with hquote hescape hback hpage hfeed hreturn htab hcontrol
  · exact short (by decide) hquote
  · exact short (by decide) hescape
  · exact short (by decide) hback
  · exact short (by decide) hpage
  · exact short (by decide) hfeed
  · exact short (by decide) hreturn
  · exact short (by decide) htab
  · exact .code (.single (isUnit_escapeDigits (by omega)))
  · exact .plain hquote hescape (Nat.le_of_not_lt hcontrol)

theorem spellsText_flatMap_escapeChar (cs : List Char) : SpellsText (cs.flatMap escapeChar) cs := by
  induction cs with
  | nil => exact .nil
  | cons c cs ih => exact .cons (spellsChar_escapeChar c) ih

/-- Only the numeral of zero starts with a zero. -/
theorem eq_zero_of_head?_toDigits {n : ℕ} (h : (Nat.toDigits 10 n).head? = some '0') : n = 0 := by
  induction n using Nat.strong_induction_on with
  | _ n ih =>
    by_cases hn : n < 10
    · rw [Nat.toDigits_of_lt_base hn] at h
      have hdigit : ∀ d < 10, d.digitChar = '0' → d = 0 := by decide
      exact hdigit n hn (Option.some_inj.mp h)
    · rw [Nat.toDigits_of_base_le (by decide) (Nat.le_of_not_lt hn),
        List.head?_append_of_ne_nil _ Nat.toDigits_ne_nil] at h
      have hfront := ih (n / 10) (Nat.div_lt_self (by omega) (by decide)) h
      omega

theorem isNumeral_toDigits (n : ℕ) :
    IsNumeral (Nat.toDigits 10 n) ∧ Numeral.value .decimal (Nat.toDigits 10 n) = n := by
  obtain ⟨hdigits, hvalue⟩ := Numeral.value_toDigits .decimal n
  refine ⟨⟨Nat.toDigits_ne_nil, hdigits, fun hzero => ?_⟩, hvalue⟩
  rw [eq_zero_of_head?_toDigits hzero]
  rfl

/-! ## Pieces one behind the other -/

/-- Characters that write some pieces, in front of anything that starts with no digit. -/
def Writes (cs : List Char) (front : List Atom) : Prop :=
  ∀ rest atoms, (∀ c ∈ rest.head?, Radix.decimal.isDigit c = false) → Spells rest atoms →
    Spells (cs ++ rest) (front ++ atoms)

/-- A sign may stand in front of anything. -/
theorem Spells.sign {rest : List Char} {atoms : List Atom} (c : Char) (hc : c ∈ signs)
    (h : Spells rest atoms) : Spells (c :: rest) (.sign c :: atoms) :=
  .cons (.sign hc) (endsBefore_of_forall_ne (by simp) _) h

theorem Spells.spaces {space rest : List Char} {atoms : List Atom}
    (hspace : ∀ c ∈ space, c ∈ Document.spaces) (h : Spells rest atoms) :
    Spells (space ++ rest) atoms := by
  induction space with
  | nil => exact h
  | cons c space ih =>
    rw [List.forall_mem_cons] at hspace
    exact .cons (.space hspace.1) (endsBefore_of_forall_ne (by simp) _) (ih hspace.2)

theorem mem_spaces_of_mem_newLine {level : ℕ} : ∀ c ∈ newLine level, c ∈ spaces := by
  intro c hc
  rcases List.mem_cons.mp hc with rfl | hc
  · decide
  · rw [List.eq_of_mem_replicate hc]
    decide

theorem spells_printText (s : String) {rest : List Char} {atoms : List Atom}
    (h : Spells rest atoms) : Spells (printText s ++ rest) (.text s :: atoms) := by
  have hpiece : Piece (printText s) [.text (String.ofList s.toList)] :=
    .text (spellsText_flatMap_escapeChar s.toList)
  rw [String.ofList_toList] at hpiece
  exact .cons hpiece (endsBefore_of_forall_ne (by simp) _) h

theorem writes_number (n : ℕ) : Writes (Nat.toDigits 10 n) [.number n] := by
  intro rest atoms hrest h
  obtain ⟨hnumeral, hvalue⟩ := isNumeral_toDigits n
  have hpiece := Piece.number hnumeral
  rw [hvalue] at hpiece
  exact .cons hpiece (fun _ _ => hrest) h

/-- What stands in front of something that starts with no digit. -/
theorem Writes.before {cs rest : List Char} {front atoms : List Atom} {c : Char}
    (h : Writes cs front) (hc : Radix.decimal.isDigit c = false)
    (hrest : Spells (c :: rest) atoms) :
    Spells (cs ++ c :: rest) (front ++ atoms) := by
  refine h (c :: rest) atoms (fun d hd => ?_) hrest
  rw [← Option.some_inj.mp hd]
  exact hc

theorem Writes.before_sign {cs rest : List Char} {front atoms : List Atom} (h : Writes cs front)
    (c : Char) (hc : c ∈ signs) (hrest : Spells rest atoms) :
    Spells (cs ++ c :: rest) (front ++ .sign c :: atoms) := by
  have hdigits : ∀ c ∈ signs, Radix.decimal.isDigit c = false :=
    List.all_iff_forall_prop.mp (by decide)
  exact h.before (hdigits c hc) (.sign c hc hrest)

theorem writes_intercalate {α : Type} {printOne : α → List Char} {writeOne : α → List Atom}
    {xs : List α} (h : ∀ x ∈ xs, Writes (printOne x) (writeOne x)) :
    Writes ([','].intercalate (xs.map printOne)) ([.sign ','].intercalate (xs.map writeOne)) := by
  induction xs with
  | nil => exact fun rest atoms _ hrest => hrest
  | cons x xs ih =>
    rw [List.forall_mem_cons] at h
    intro rest atoms hend hrest
    cases xs with
    | nil => simpa using h.1 rest atoms hend hrest
    | cons y xs =>
      have hmore := ih h.2 rest atoms hend hrest
      have hx := h.1.before_sign ',' (by decide) hmore
      simp only [List.map_cons, List.intercalate_cons_cons, List.append_assoc,
        List.singleton_append] at hx ⊢
      exact hx

theorem writes_field {space cs : List Char} {field : String × Document}
    (hspace : ∀ c ∈ space, c ∈ spaces) (h : Writes cs field.2.atoms) :
    Writes (printText field.1 ++ ':' :: (space ++ cs)) (fieldAtom field) := by
  intro rest atoms hend hrest
  have hvalue := Spells.spaces hspace (h rest atoms hend hrest)
  have hfield := spells_printText field.1 (.sign ':' (by decide) hvalue)
  simpa [fieldAtom] using hfield

/-! ## The two layouts -/

/-- To prove something of all documents it is enough to prove it of lists and objects whose parts
have it. -/
@[elab_as_elim]
theorem induct {motive : Document → Prop} (text : ∀ s, motive (text s))
    (number : ∀ n, motive (number n))
    (list : ∀ items, (∀ item ∈ items, motive item) → motive (list items))
    (object : ∀ fields, (∀ field ∈ fields, motive field.2) → motive (object fields)) :
    ∀ d, motive d
  | .text s => text s
  | .number n => number n
  | .list items => list items fun item hitem =>
    have hsmaller : sizeOf item < sizeOf (Document.list items) :=
      (List.sizeOf_lt_of_mem hitem).trans (by simp)
    induct text number list object item
  | .object fields => object fields fun field hfield =>
    have hsmaller : sizeOf field.2 < sizeOf (Document.object fields) := by
      have hmem := List.sizeOf_lt_of_mem hfield
      obtain ⟨key, value⟩ := field
      simp only [Prod.mk.sizeOf_spec, Document.object.sizeOf_spec] at hmem ⊢
      omega
    induct text number list object field.2
termination_by d => sizeOf d
decreasing_by all_goals exact hsmaller

theorem compactItems_eq (items : List Document) :
    compactItems items = [','].intercalate (items.map compactChars) :=
  eq_intercalate rfl (fun _ _ => by rw [compactItems]) items

theorem compactFields_eq (fields : List (String × Document)) :
    compactFields fields = [','].intercalate
      (fields.map fun field => printText field.1 ++ ':' :: ([] ++ compactChars field.2)) :=
  eq_intercalate rfl (fun _ _ => by rw [compactFields, List.nil_append]) fields

theorem prettyItems_eq (level : ℕ) (items : List Document) :
    prettyItems level items =
      [','].intercalate (items.map fun item => newLine level ++ prettyChars level item) :=
  eq_intercalate rfl (fun _ _ => by rw [prettyItems]) items

theorem prettyFields_eq (level : ℕ) (fields : List (String × Document)) :
    prettyFields level fields = [','].intercalate
      (fields.map fun field =>
        newLine level ++ (printText field.1 ++ ':' :: ([' '] ++ prettyChars level field.2))) :=
  eq_intercalate rfl (fun _ _ => by rw [prettyFields]; simp) fields

/-- **Without any space** a document is written as its pieces. -/
theorem writes_compactChars (d : Document) : Writes (compactChars d) d.atoms := by
  induction d using Document.induct with
  | text s => exact fun rest atoms _ hrest => spells_printText s hrest
  | number n => exact writes_number n
  | list items ih =>
    intro rest atoms hend hrest
    have hinside := writes_intercalate ih
    rw [← compactItems_eq, ← itemAtoms_eq] at hinside
    have hlist := Spells.sign '[' (by decide) (hinside.before_sign ']' (by decide) hrest)
    simpa [compactChars, Document.atoms] using hlist
  | object fields ih =>
    intro rest atoms hend hrest
    have hinside := writes_intercalate fun field hfield =>
      @writes_field [] _ field (List.forall_mem_nil _) (ih field hfield)
    rw [← compactFields_eq, ← fieldAtoms_eq] at hinside
    have hobject := Spells.sign '\x7b' (by decide)
      (hinside.before_sign '\x7d' (by decide) hrest)
    simpa [compactChars, Document.atoms] using hobject

/-- Whatever is written may stand on a line of its own. -/
theorem Writes.newLine {cs : List Char} {front : List Atom} (h : Writes cs front) (level : ℕ) :
    Writes (newLine level ++ cs) front := by
  intro rest atoms hend hrest
  rw [List.append_assoc]
  exact Spells.spaces mem_spaces_of_mem_newLine (h rest atoms hend hrest)

/-- The sign that ends a list or an object may stand on a line of its own. -/
theorem Writes.before_newLine {cs rest : List Char} {front atoms : List Atom} (h : Writes cs front)
    (level : ℕ) (c : Char) (hc : c ∈ signs) (hrest : Spells rest atoms) :
    Spells (cs ++ Document.newLine level ++ c :: rest) (front ++ .sign c :: atoms) := by
  rw [List.append_assoc]
  refine h.before (c := '\n') (by decide) ?_
  exact Spells.spaces mem_spaces_of_mem_newLine (.sign c hc hrest)

/-- **One item or field a line**, a document is written as its pieces too. -/
theorem writes_prettyChars (d : Document) (level : ℕ) : Writes (prettyChars level d) d.atoms := by
  induction d using Document.induct generalizing level with
  | text s => exact fun rest atoms _ hrest => spells_printText s hrest
  | number n => exact writes_number n
  | list items ih =>
    intro rest atoms hend hrest
    rw [prettyChars]
    split
    · next hempty =>
      rw [List.isEmpty_iff] at hempty
      rw [hempty]
      exact .sign '[' (by decide) (.sign ']' (by decide) hrest)
    · have hinside := writes_intercalate fun item hitem =>
        (ih item hitem (level + 1)).newLine (level + 1)
      rw [← prettyItems_eq, ← itemAtoms_eq] at hinside
      have hlist := Spells.sign '[' (by decide) (hinside.before_newLine level ']' (by decide) hrest)
      simpa [Document.atoms] using hlist
  | object fields ih =>
    intro rest atoms hend hrest
    rw [prettyChars]
    split
    · next hempty =>
      rw [List.isEmpty_iff] at hempty
      rw [hempty]
      exact .sign '\x7b' (by decide) (.sign '\x7d' (by decide) hrest)
    · have hinside := writes_intercalate fun field hfield =>
        (@writes_field [' '] _ field (List.forall_mem_singleton.mpr (by decide))
          (ih field hfield (level + 1))).newLine (level + 1)
      rw [← prettyFields_eq, ← fieldAtoms_eq] at hinside
      have hobject := Spells.sign '\x7b' (by decide)
        (hinside.before_newLine level '\x7d' (by decide) hrest)
      simpa [Document.atoms] using hobject

/-- **A document is written without any space**, -/
theorem isWritten_compact (d : Document) : d.IsWritten d.compact := by
  have h := writes_compactChars d [] [] (by simp) .nil
  rw [List.append_nil, List.append_nil] at h
  rwa [IsWritten, compact, String.toList_ofList]

/-- and **with one item or field a line**. -/
theorem isWritten_pretty (d : Document) : d.IsWritten d.pretty := by
  have h := writes_prettyChars d 0 [] [] (by simp) .nil
  rw [List.append_nil, List.append_nil] at h
  rwa [IsWritten, pretty, String.toList_ofList]

end Document
end OperandSearch
