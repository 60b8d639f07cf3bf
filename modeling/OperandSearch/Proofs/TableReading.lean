import Mathlib.Data.List.Forall2
import Mathlib.Order.Bounds.Defs
import OperandSearch.Proofs.PageReading
import OperandSearch.Report.Table

/-!
# The columns of a table, and reading them back

A table is a text, and its columns are places in its lines: the addresses start a line, the names
start at character 20, and the instructions two characters behind the widest name.  What stands in
a column is said here by counting characters from the start of a line (`HasColumns`), for the
headings in the same way as for the finds, so that a heading and what stands below it start at the
same character.

Names and instructions stand in a table as they are, and may hold spaces.  Where a name ends is
known only because the width of its column is, and that can be told from the line of headings, the
last of which has a known length.  Reading a table back starts there.  It needs two things of the
finds: no line feed in a name or an instruction, because it would end the line, and no space at the
end of a name, because it could not be told from those that fill the column.
-/

namespace OperandSearch

/-! ## Lines -/

namespace Text

/-- The lines of a text.  A line is ended by a line feed, and what stands behind the last one is
no line. -/
def lines : List Char → List (List Char)
  | [] => []
  | c :: cs =>
    if c = '\n' then [] :: lines cs
    else match lines cs with
      | [] => []
      | line :: rest => (c :: line) :: rest

theorem length_lines (cs : List Char) : (lines cs).length = cs.count '\n' := by
  induction cs with
  | nil => rfl
  | cons c cs ih =>
    rw [lines]
    split
    · next hc => rw [List.length_cons, ih, hc, List.count_cons_self]
    · next hc =>
      rw [List.count_cons_of_ne hc, ← ih]
      split
      · next hnone => rw [hnone]
      · next hsome => rw [hsome, List.length_cons, List.length_cons]

theorem lines_append {line : List Char} (h : '\n' ∉ line) (cs : List Char) :
    lines (line ++ '\n' :: cs) = line :: lines cs := by
  induction line with
  | nil => rw [List.nil_append, lines, if_pos rfl]
  | cons c line ih =>
    rw [List.mem_cons, not_or] at h
    rw [List.cons_append, lines, if_neg (Ne.symm h.1), ih h.2]

theorem lines_flatMap {texts : List (List Char)} (h : ∀ text ∈ texts, '\n' ∉ text) :
    lines (texts.flatMap (· ++ ['\n'])) = texts := by
  induction texts with
  | nil => rfl
  | cons text texts ih =>
    rw [List.forall_mem_cons] at h
    rw [List.flatMap_cons, List.append_assoc, List.singleton_append, lines_append h.1, ih h.2]

end Text

namespace Table

/-! ## Columns -/

/-- A line has three columns, which start at its characters 0, 20 and `width + 22`.  In front of
the second and the third stand at least two spaces. -/
structure HasColumns (width : ℕ) (address function instruction line : List Char) : Prop where
  address : line.take 20 = address ++ List.replicate (20 - address.length) ' '
  function : (line.drop 20).take (width + 2) =
    function ++ List.replicate (width + 2 - function.length) ' '
  instruction : line.drop (width + 22) = instruction

/-- A text prints an address: `0x`, and sixteen upper-case digits that are worth the address. -/
def PrintsAddress (v : UInt64) (text : List Char) : Prop :=
  ∃ digits, text = '0' :: 'x' :: digits ∧ digits.length = 16 ∧
    (∀ c ∈ digits, c ∈ Numeral.upperDigits) ∧ Numeral.value .hexadecimal digits = v.toNat

theorem printsAddress_address (v : UInt64) : PrintsAddress v (Numeral.address v).toList := by
  obtain ⟨-, hvalue, -⟩ := Numeral.read_eq_ok_iff.mp (Numeral.read_addressDigits v)
  exact ⟨Numeral.addressDigits v, Numeral.toList_address v, Numeral.length_addressDigits v,
    fun c hc => Numeral.mem_upperDigits_of_mem_addressDigits hc, hvalue.symm⟩

/-- A line without its line feed. -/
def content (width : ℕ) (address function instruction : List Char) : List Char :=
  padRight 18 address ++ [' ', ' '] ++ padRight width function ++ [' ', ' '] ++ instruction

/-- The content of the line of headings. -/
def headingContent (width : ℕ) : List Char :=
  content width "Address".toList "Function".toList "Instruction".toList

/-- The content of the line of a find. -/
def rowContent (width : ℕ) (found : Match) : List Char :=
  content width (Numeral.address found.address).toList found.function.toList
    found.instruction.toList

/-- The contents of all lines of a table. -/
def contents (results : List Match) : List (List Char) :=
  headingContent (nameWidth results) :: results.map (rowContent (nameWidth results))

/-- A table is made of its contents, each with a line feed behind it. -/
theorem toList_render (results : List Match) :
    (render results).toList = (contents results).flatMap (· ++ ['\n']) := by
  rw [render, String.toList_ofList, renderChars, contents, List.flatMap_cons, List.flatMap_map]
  rfl

/-- Text that fits a column, with the two spaces behind the column, is the text filled up with
spaces. -/
theorem padRight_append {width : ℕ} {cs : List Char} (h : cs.length ≤ width) :
    padRight width cs ++ [' ', ' '] = cs ++ List.replicate (width + 2 - cs.length) ' ' := by
  have htwo : [' ', ' '] = List.replicate 2 ' ' := rfl
  rw [padRight, htwo, List.append_assoc, List.replicate_append_replicate, Nat.sub_add_comm h]

/-- A line has the columns it was made of, if the first two fit. -/
theorem hasColumns_content {width : ℕ} {address function instruction : List Char}
    (haddress : address.length ≤ 18) (hfunction : function.length ≤ width) :
    HasColumns width address function instruction
      (content width address function instruction) := by
  have hparts : content width address function instruction =
      (address ++ List.replicate (20 - address.length) ' ') ++
        ((function ++ List.replicate (width + 2 - function.length) ' ') ++ instruction) := by
    rw [content, ← padRight_append haddress, ← padRight_append hfunction]
    simp only [List.append_assoc]
  have hfirst : (address ++ List.replicate (20 - address.length) ' ').length = 20 := by
    rw [List.length_append, List.length_replicate]
    omega
  have hsecond :
      (function ++ List.replicate (width + 2 - function.length) ' ').length = width + 2 := by
    rw [List.length_append, List.length_replicate]
    omega
  have hdrop : width + 22 = 20 + (width + 2) := by omega
  constructor
  · rw [hparts, List.take_left' hfirst]
  · rw [hparts, List.drop_left' hfirst, List.take_left' hsecond]
  · rw [hparts, hdrop, ← List.drop_drop, List.drop_left' hfirst, List.drop_left' hsecond]

/-- The width of the column of names is the least that has room for all of them and for the
heading. -/
theorem isLeast_nameWidth (results : List Match) :
    IsLeast {width | 8 ≤ width ∧ ∀ found ∈ results, found.function.toList.length ≤ width}
      (nameWidth results) := by
  have hfold (lengths : List ℕ) (start : ℕ) : IsLeast
      {width | start ≤ width ∧ ∀ n ∈ lengths, n ≤ width} (lengths.foldl max start) := by
    induction lengths generalizing start with
    | nil => exact ⟨⟨le_rfl, by simp⟩, fun width hwidth => hwidth.1⟩
    | cons n lengths ih =>
      have hsame : {width | start ≤ width ∧ ∀ m ∈ n :: lengths, m ≤ width} =
          {width | max start n ≤ width ∧ ∀ m ∈ lengths, m ≤ width} := by
        ext width
        simp only [Set.mem_ofPred_eq, List.forall_mem_cons, max_le_iff, and_assoc]
      rw [List.foldl_cons, hsame]
      exact ih (max start n)
  have hheading : "Function".length = 8 := rfl
  have h := hfold (results.map fun found => found.function.toList.length) 8
  rw [nameWidth, hheading]
  simpa only [List.forall_mem_map] using h

theorem length_le_nameWidth {results : List Match} {found : Match} (h : found ∈ results) :
    found.function.toList.length ≤ nameWidth results :=
  (isLeast_nameWidth results).1.2 found h

theorem length_address (v : UInt64) : (Numeral.address v).toList.length = 18 := by
  rw [Numeral.toList_address, List.length_cons, List.length_cons, Numeral.length_addressDigits]

theorem hasColumns_headingContent (results : List Match) :
    HasColumns (nameWidth results) "Address".toList "Function".toList "Instruction".toList
      (headingContent (nameWidth results)) :=
  hasColumns_content (by decide) (isLeast_nameWidth results).1.1

theorem hasColumns_rowContent {results : List Match} {found : Match} (h : found ∈ results) :
    HasColumns (nameWidth results) (Numeral.address found.address).toList found.function.toList
      found.instruction.toList (rowContent (nameWidth results) found) :=
  hasColumns_content (length_address found.address).le (length_le_nameWidth h)

/-- The line of headings tells how wide the column of names is. -/
theorem length_headingContent {width : ℕ} (h : 8 ≤ width) :
    (headingContent width).length = width + 33 := by
  have haddress : "Address".toList.length = 7 := rfl
  have hfunction : "Function".toList.length = 8 := rfl
  have hinstruction : "Instruction".toList.length = 11 := rfl
  simp only [headingContent, content, padRight, List.length_append, List.length_replicate,
    List.length_cons, List.length_nil, haddress, hfunction, hinstruction]
  omega

theorem notMem_content {width : ℕ} {address function instruction : List Char}
    (haddress : '\n' ∉ address) (hfunction : '\n' ∉ function) (hinstruction : '\n' ∉ instruction) :
    '\n' ∉ content width address function instruction := by
  simp [content, padRight, haddress, hfunction, hinstruction]

theorem notMem_address (v : UInt64) : '\n' ∉ (Numeral.address v).toList := by
  rw [Numeral.toList_address]
  intro h
  have hdigit : '\n' ∈ Numeral.addressDigits v := by simpa using h
  exact absurd (Numeral.mem_upperDigits_of_mem_addressDigits hdigit) (by decide)

theorem lines_render {results : List Match} (h : ∀ found ∈ results,
    '\n' ∉ found.function.toList ∧ '\n' ∉ found.instruction.toList) :
    Text.lines (render results).toList = contents results := by
  rw [toList_render]
  refine Text.lines_flatMap (List.forall_mem_cons.mpr ⟨?_, ?_⟩)
  · exact notMem_content (by decide) (by decide) (by decide)
  · intro text htext
    obtain ⟨found, hfound, rfl⟩ := List.mem_map.mp htext
    exact notMem_content (notMem_address _) (h found hfound).1 (h found hfound).2

/-! ## Reading -/

/-- The find of a line, if the line has one. -/
def readRow? (width : ℕ) (line : List Char) : Option Match := do
  let address ← Page.readAddress? (line.take 18)
  return {
    address
    function := String.ofList (Text.dropTrailing (· == ' ') ((line.drop 20).take (width + 2)))
    instruction := String.ofList (line.drop (width + 22)) }

/-- The finds of a table.  The first line tells how wide the column of names is. -/
def read? (table : String) : Option (List Match) :=
  match Text.lines table.toList with
  | [] => none
  | heading :: rows => rows.mapM (readRow? (heading.length - 33))

/-- A find is read from its columns, if no space ends its name. -/
theorem readRow?_of_hasColumns {width : ℕ} {found : Match} {line : List Char}
    (h : HasColumns width (Numeral.address found.address).toList found.function.toList
      found.instruction.toList line) (hspace : ' ' ∉ found.function.toList.getLast?) :
    readRow? width line = some found := by
  have haddress : line.take 18 = (Numeral.address found.address).toList := by
    have htake : line.take 18 = (line.take 20).take 18 := by rw [List.take_take]; rfl
    rw [htake, h.address, List.take_left' (length_address found.address)]
  have hfunction : Text.dropTrailing (· == ' ') ((line.drop 20).take (width + 2)) =
      found.function.toList := by
    rw [h.function]
    refine Text.dropTrailing_append (fun c hc => ?_) fun c hc => ?_
    · rw [List.eq_of_mem_replicate hc]
      rfl
    · rw [beq_eq_false_iff_ne]
      rintro rfl
      exact hspace hc
  have hread : Page.readAddress? (line.take 18) = some found.address :=
    Page.readAddress?_eq_some_iff.mpr haddress
  simp only [readRow?, hread, hfunction, h.instruction, String.ofList_toList, Option.bind_eq_bind,
    Option.bind_some, Option.pure_def]

/-- **A table can be read back**, if no name and no instruction has a line feed and no space ends a
name. -/
theorem read?_render {results : List Match} (hline : ∀ found ∈ results,
    '\n' ∉ found.function.toList ∧ '\n' ∉ found.instruction.toList)
    (hspace : ∀ found ∈ results, ' ' ∉ found.function.toList.getLast?) :
    read? (render results) = some results := by
  have hrows (width : ℕ) (finds : List Match)
      (h : ∀ found ∈ finds, readRow? width (rowContent width found) = some found) :
      (finds.map (rowContent width)).mapM (readRow? width) = some finds := by
    induction finds with
    | nil => rfl
    | cons found finds ih =>
      rw [List.forall_mem_cons] at h
      rw [List.map_cons, List.mapM_cons, h.1, ih h.2]
      rfl
  have hwidth : (headingContent (nameWidth results)).length - 33 = nameWidth results := by
    rw [length_headingContent (isLeast_nameWidth results).1.1, Nat.add_sub_cancel]
  rw [read?, lines_render hline, contents]
  simp only [hwidth]
  exact hrows _ _ fun found hfound =>
    readRow?_of_hasColumns (hasColumns_rowContent hfound) (hspace found hfound)

/-- **The layout of a table.**  If no name and no instruction has a line feed, a table is made of
one line of headings and one line for each find, in order, each with a line feed behind it.  All of
them have their columns at the same characters, the width of the second being that of the longest
name and at least eight: under the headings stand the address in eighteen characters, the name, and
the instruction as it is.  If also no space ends a name, the finds can be read back. -/
theorem render_columns {results : List Match} (hline : ∀ found ∈ results,
    '\n' ∉ found.function.toList ∧ '\n' ∉ found.instruction.toList) :
    IsLeast {width | 8 ≤ width ∧ ∀ found ∈ results, found.function.toList.length ≤ width}
      (nameWidth results) ∧
    (∃ heading rows,
      (render results).toList = (heading :: rows).flatMap (· ++ ['\n']) ∧
      Text.lines (render results).toList = heading :: rows ∧
      (heading :: rows).length = results.length + 1 ∧
      HasColumns (nameWidth results) "Address".toList "Function".toList "Instruction".toList
        heading ∧
      List.Forall₂ (fun found row => ∃ address, PrintsAddress found.address address ∧
        HasColumns (nameWidth results) address found.function.toList found.instruction.toList row)
        results rows) ∧
    ((∀ found ∈ results, ' ' ∉ found.function.toList.getLast?) →
      read? (render results) = some results) := by
  refine ⟨isLeast_nameWidth results, ⟨_, _, toList_render results, lines_render hline, ?_,
    hasColumns_headingContent results, ?_⟩, read?_render hline⟩
  · rw [List.length_cons, List.length_map]
  · rw [List.forall₂_map_right_iff, List.forall₂_same]
    exact fun found hfound =>
      ⟨_, printsAddress_address found.address, hasColumns_rowContent hfound⟩

/-- Two finds, the first of which has a name that is wider than its heading and has a space in
it. -/
def spacedFinds : List Match :=
  [⟨0x401000, "operator new[]", "mov eax , 0x10"⟩, ⟨0xfedcba9876543210, "f", "add  r0 , #0x10"⟩]

/-- The table of the two finds, and what is read from it. -/
theorem render_columns_spacedFinds :
    nameWidth spacedFinds = 14 ∧
    Text.lines (render spacedFinds).toList =
      ["Address             Function        Instruction".toList,
        "0x0000000000401000  operator new[]  mov eax , 0x10".toList,
        "0xFEDCBA9876543210  f               add  r0 , #0x10".toList] ∧
    read? (render spacedFinds) = some spacedFinds := by
  have hline : ∀ found ∈ spacedFinds,
      '\n' ∉ found.function.toList ∧ '\n' ∉ found.instruction.toList := by decide
  obtain ⟨-, -, hread⟩ := render_columns hline
  refine ⟨by decide, ?_, hread (by decide)⟩
  rw [lines_render hline]
  decide +kernel

end Table
end OperandSearch
