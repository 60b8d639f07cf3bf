import OperandSearch.Proofs.Markup

/-!
# Reading a page back

A page shows the finds and loses nothing of them.  This file has a reader for pages.  It goes
through the fixed markup, takes the text of each cell up to the next `<`, reads the address and
undoes the entities in the other two cells.  It accepts exactly the pages that are rendered,
each with the finds it was rendered from, so two lists of finds with the same page are the same
list.

Each part of the reader has its own equivalence: what it reads is what the corresponding part of
the printer writes.  That a cell ends where the printer closed it, and not earlier, is due to
escaping: no escaped text has a `<` in it, whatever the name was that was escaped.
-/

namespace OperandSearch
namespace Page

/-! ## Entities -/

/-- The text that was escaped to another, if there is one. -/
def unescape? : List Char → Option (List Char)
  | [] => some []
  | '&' :: 'a' :: 'm' :: 'p' :: ';' :: cs => (unescape? cs).map ('&' :: ·)
  | '&' :: 'l' :: 't' :: ';' :: cs => (unescape? cs).map ('<' :: ·)
  | '&' :: 'g' :: 't' :: ';' :: cs => (unescape? cs).map ('>' :: ·)
  | '&' :: 'q' :: 'u' :: 'o' :: 't' :: ';' :: cs => (unescape? cs).map ('"' :: ·)
  | '&' :: '#' :: '3' :: '9' :: ';' :: cs => (unescape? cs).map ('\'' :: ·)
  | c :: cs => if c ∈ reserved then none else (unescape? cs).map (c :: ·)

theorem unescape?_cons_of_notMem {c : Char} (cs : List Char) (hc : c ∉ reserved) :
    unescape? (c :: cs) = (unescape? cs).map (c :: ·) := by
  have hampersand : c ≠ '&' := by
    rintro rfl
    exact hc (by decide)
  rw [unescape?, if_neg hc] <;> exact fun _ h _ => hampersand h

theorem unescape?_entity_append {c : Char} {entity : List Char} (h : (c, entity) ∈ entities)
    (cs : List Char) : unescape? (entity ++ cs) = (unescape? cs).map (c :: ·) := by
  simp only [entities, List.mem_cons, List.not_mem_nil, or_false, Prod.mk.injEq] at h
  rcases h with ⟨rfl, rfl⟩ | ⟨rfl, rfl⟩ | ⟨rfl, rfl⟩ | ⟨rfl, rfl⟩ | ⟨rfl, rfl⟩ <;>
    rw [List.cons_append] <;> rfl

theorem unescape?_escape (cs : List Char) : unescape? (escape cs) = some cs := by
  induction cs with
  | nil => rfl
  | cons c cs ih =>
    rw [escape_cons]
    rcases escapeChar_cases c with ⟨entity, hentity, h⟩ | ⟨hc, h⟩
    · rw [h, unescape?_entity_append hentity, ih]
      rfl
    · rw [h, List.singleton_append, unescape?_cons_of_notMem _ hc, ih]
      rfl

theorem eq_escape_of_unescape? {text cs : List Char} (h : unescape? text = some cs) :
    text = escape cs := by
  induction text using unescape?.induct generalizing cs with
  | case1 =>
    cases h
    rfl
  | case2 _ ih | case3 _ ih | case4 _ ih | case5 _ ih | case6 _ ih =>
    rw [unescape?] at h
    obtain ⟨cs, hcs, rfl⟩ := Option.map_eq_some_iff.mp h
    rw [escape_cons, ih hcs]
    rfl
  | case7 c text _ _ _ _ _ hc =>
    rw [unescape?, if_pos hc] at h <;> first | cases h | assumption
  | case8 c text _ _ _ _ _ hc ih =>
    rw [unescape?_cons_of_notMem _ hc] at h
    obtain ⟨cs, hcs, rfl⟩ := Option.map_eq_some_iff.mp h
    rw [escape_cons, escapeChar_of_notMem hc, ih hcs, List.singleton_append]

/-- **Undoing the entities.**  What is read from a text is what was escaped to it. -/
theorem unescape?_eq_some_iff {text cs : List Char} :
    unescape? text = some cs ↔ text = escape cs := by
  constructor
  · exact eq_escape_of_unescape?
  · rintro rfl
    exact unescape?_escape cs

/-! ## Addresses -/

/-- The address that a text prints, if it prints one. -/
def readAddress? (cs : List Char) : Option UInt64 := do
  let digits ← cs.dropPrefix? ['0', 'x']
  let n ← (Numeral.read .hexadecimal digits).toOption
  if (Numeral.address (UInt64.ofNat n)).toList = cs then some (UInt64.ofNat n) else none

theorem readAddress?_eq_some_iff {cs : List Char} {v : UInt64} :
    readAddress? cs = some v ↔ cs = (Numeral.address v).toList := by
  constructor
  · intro h
    simp only [readAddress?, Option.bind_eq_bind, Option.bind_eq_some_iff] at h
    obtain ⟨digits, -, n, -, h⟩ := h
    split at h
    · next hprints =>
      rw [← Option.some_inj.mp h]
      exact hprints.symm
    · cases h
  · intro hprints
    have hmark : cs.dropPrefix? ['0', 'x'] = some (Numeral.addressDigits v) := by
      simp [hprints, Numeral.toList_address, List.dropPrefix?]
    rw [readAddress?, hmark, Option.bind_eq_bind, Option.bind_some, Numeral.read_addressDigits]
    simp [Except.toOption, hprints]

/-! ## Cells and rows -/

theorem dropPrefix?_eq_some_iff_eq_append {cs markup rest : List Char} :
    cs.dropPrefix? markup = some rest ↔ cs = markup ++ rest := by
  simp [List.dropPrefix?_eq_some_iff]

/-- The content of the cell that a text starts with, and what follows the cell. -/
def readCell? (cs : List Char) : Option (List Char × List Char) := do
  let inside ← cs.dropPrefix? cellOpening
  let rest ← (inside.dropWhile (· != '<')).dropPrefix? cellClosing
  return (inside.takeWhile (· != '<'), rest)

theorem readCell?_eq_some_iff {cs content rest : List Char} :
    readCell? cs = some (content, rest) ↔ '<' ∉ content ∧ cs = cell content ++ rest := by
  simp only [readCell?, Option.bind_eq_bind, Option.bind_eq_some_iff,
    dropPrefix?_eq_some_iff_eq_append, Option.pure_def, Option.some_inj, Prod.mk.injEq, cell]
  constructor
  · rintro ⟨inside, rfl, closed, hclosed, rfl, rfl⟩
    constructor
    · exact notMem_iff_forall_bne.mpr fun c hc => List.mem_takeWhile_imp (p := (· != '<')) hc
    · rw [List.append_assoc, List.append_assoc, ← hclosed, List.takeWhile_append_dropWhile]
  · rintro ⟨hcontent, hcs⟩
    have hmarkup : cellClosing.head? = some '<' := by decide
    have hstop : ∀ c ∈ (cellClosing ++ rest).head?, (c != '<') = false := by
      simp [List.head?_append, hmarkup]
    refine ⟨content ++ (cellClosing ++ rest), by simp only [hcs, List.append_assoc], rest, ?_, ?_,
      rfl⟩
    · exact Text.dropWhile_append_of_head? (notMem_iff_forall_bne.mp hcontent) hstop
    · exact Text.takeWhile_append_of_head? (notMem_iff_forall_bne.mp hcontent) hstop

/-- The find whose row a text starts with, and what follows the row. -/
def readRow? (cs : List Char) : Option (Match × List Char) := do
  let cells ← cs.dropPrefix? rowOpening
  let (address, cells) ← readCell? cells
  let (function, cells) ← readCell? cells
  let (instruction, cells) ← readCell? cells
  let rest ← cells.dropPrefix? rowClosing
  let address ← readAddress? address
  let function ← unescape? function
  let instruction ← unescape? instruction
  return (⟨address, String.ofList function, String.ofList instruction⟩, rest)

/-- What is read from a text is the find whose row it starts with. -/
theorem readRow?_eq_some_iff {cs rest : List Char} {found : Match} :
    readRow? cs = some (found, rest) ↔ cs = row found ++ rest := by
  have hescaped (text : List Char) : '<' ∉ escape text :=
    fun h => notMem_delimiters_of_mem_escape _ h (by decide)
  simp only [readRow?, Option.bind_eq_bind, Option.bind_eq_some_iff, Prod.exists,
    dropPrefix?_eq_some_iff_eq_append, readCell?_eq_some_iff, readAddress?_eq_some_iff,
    unescape?_eq_some_iff, Option.pure_def, Option.some_inj, Prod.mk.injEq]
  constructor
  · rintro ⟨_, hrow, _, _, ⟨-, haddress⟩, _, _, ⟨-, hfunction⟩, _, _, ⟨-, hinstruction⟩, _, hend,
      _, haddressText, _, hfunctionText, _, hinstructionText, rfl, rfl⟩
    rw [hrow, haddress, hfunction, hinstruction, hend, haddressText, hfunctionText,
      hinstructionText]
    simp only [row, String.toList_ofList, List.append_assoc]
  · intro hcs
    have haddress : '<' ∉ (Numeral.address found.address).toList := by
      rw [← escape_address]
      exact hescaped _
    refine ⟨_, ?_, _, _, ⟨haddress, rfl⟩, _, _, ⟨hescaped found.function.toList, rfl⟩, _, _,
      ⟨hescaped found.instruction.toList, rfl⟩, rest, rfl, _, rfl, _, rfl, _, rfl, ?_, rfl⟩
    · rw [hcs, row]
      simp only [List.append_assoc]
    · simp only [String.ofList_toList]

/-! ## Pages -/

theorem length_lt_of_readRow? {cs rest : List Char} {found : Match}
    (h : readRow? cs = some (found, rest)) : rest.length < cs.length := by
  rw [readRow?_eq_some_iff.mp h, row]
  simp only [List.length_append]
  have hopening : 0 < rowOpening.length := by decide
  omega

/-- The finds whose rows a text is made of, up to the end of the page. -/
def readRows? (cs : List Char) : Option (List Match) :=
  match _h : readRow? cs with
  | some (found, rest) => (readRows? rest).map (found :: ·)
  | none => if cs = closing then some [] else none
termination_by cs.length
decreasing_by exact length_lt_of_readRow? _h

/-- What is read from rows are the finds, in order. -/
theorem readRows?_eq_some_iff {cs : List Char} {results : List Match} :
    readRows? cs = some results ↔ cs = results.flatMap row ++ closing := by
  -- the end of the page is no row: it is not indented as deep
  have hclosing : readRow? closing = none := rfl
  constructor
  · intro h
    induction cs using readRows?.induct generalizing results with
    | case1 cs found rest hrow ih =>
      rw [readRows?, hrow] at h
      obtain ⟨results, hresults, rfl⟩ := Option.map_eq_some_iff.mp h
      rw [readRow?_eq_some_iff.mp hrow, ih hresults, List.flatMap_cons, List.append_assoc]
    | case2 hnone =>
      rw [readRows?, hclosing, if_pos rfl] at h
      rw [← Option.some_inj.mp h, List.flatMap_nil, List.nil_append]
    | case3 cs hnone hcs =>
      rw [readRows?, hnone, if_neg hcs] at h
      cases h
  · intro hcs
    induction results generalizing cs with
    | nil =>
      rw [hcs, List.flatMap_nil, List.nil_append, readRows?, hclosing, if_pos rfl]
    | cons found results ih =>
      have hrow : readRow? cs = some (found, results.flatMap row ++ closing) := by
        rw [readRow?_eq_some_iff, hcs, List.flatMap_cons, List.append_assoc]
      rw [readRows?, hrow]
      exact Option.map_eq_some_iff.mpr ⟨results, ih rfl, rfl⟩

/-- The finds that a page shows, if it is one. -/
def read? (page : String) : Option (List Match) := do
  let rows ← page.toList.dropPrefix? opening
  readRows? rows

/-- **A page loses nothing.**  What is read from a page are the finds that it was rendered from,
all of them and in order, and nothing but a page is read.  So no two lists of finds have the same
page. -/
theorem render_lossless :
    (∀ page results, read? page = some results ↔ page = render results) ∧
      Function.Injective render := by
  have hread (page : String) (results : List Match) :
      read? page = some results ↔ page = render results := by
    simp only [read?, Option.bind_eq_bind, Option.bind_eq_some_iff,
      dropPrefix?_eq_some_iff_eq_append, readRows?_eq_some_iff, render, renderChars]
    rw [← String.toList_inj, String.toList_ofList]
    simp
  refine ⟨hread, fun xs ys h => ?_⟩
  exact Option.some_inj.mp (((hread _ xs).mpr rfl).symm.trans ((hread _ ys).mpr h))

end Page
end OperandSearch
