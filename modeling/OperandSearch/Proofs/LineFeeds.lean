import OperandSearch.Proofs.Search
import OperandSearch.Proofs.SpacedOperands
import OperandSearch.Proofs.TableReading
import OperandSearch.Report

/-!
# Line feeds in the table of a search

In a table a find takes a line, and nothing of it is escaped: where a name or an instruction has
a line feed, the line ends there, and what follows stands in a line that looks like any other.  So
a table has, next to the headings and one line for each find, one line for each line feed in the
finds (`Table.length_lines_render`).

Of a find that a search makes, the operands have none: they are the lexemes of a text with spaces
between them, and a line feed is a blank, which belongs to no lexeme.  The mnemonic is what the
engine says it is.  The name is the one of a symbol, which in an object file can be any bytes that
are a text.  So it depends on the names of the functions that something is found in whether a
table has one line for each find, and an object file with a line feed in a name shows that it
can have more.
-/

namespace OperandSearch

/-! ## Tables -/

/-- Where a line feed was put behind each of some texts, there are those line feeds and the ones in
the texts. -/
theorem Text.count_flatMap_append (texts : List (List Char)) :
    (texts.flatMap (· ++ ['\n'])).count '\n' =
      texts.length + (texts.map (List.count '\n')).sum := by
  induction texts with
  | nil => rfl
  | cons text texts ih =>
    rw [List.flatMap_cons, List.count_append, List.count_append, List.count_singleton_self, ih,
      List.length_cons, List.map_cons, List.sum_cons]
    omega

namespace Table

/-- How many line feeds the texts of a find have. -/
def lineFeeds (found : Match) : ℕ :=
  found.function.toList.count '\n' + found.instruction.toList.count '\n'

theorem count_content (width : ℕ) (address function instruction : List Char) :
    (content width address function instruction).count '\n' =
      address.count '\n' + function.count '\n' + instruction.count '\n' := by
  have hpad (n : ℕ) (cs : List Char) : (padRight n cs).count '\n' = cs.count '\n' := by
    simp [padRight, List.count_replicate]
  have hspaces : [' ', ' '].count '\n' = 0 := rfl
  simp only [content, List.count_append, hpad, hspaces, Nat.add_zero]

/-- **How many lines a table has.**  One for the headings, one for each find, and one for each line
feed in the finds. -/
theorem length_lines_render (results : List Match) :
    (Text.lines (render results).toList).length =
      results.length + 1 + (results.map lineFeeds).sum := by
  have hheading (width : ℕ) : (headingContent width).count '\n' = 0 :=
    List.count_eq_zero.mpr (notMem_content (by decide) (by decide) (by decide))
  have hrow (width : ℕ) : List.count '\n' ∘ rowContent width = lineFeeds := by
    funext found
    rw [Function.comp_apply, rowContent, count_content,
      List.count_eq_zero.mpr (notMem_address found.address), Nat.zero_add, lineFeeds]
  rw [Text.length_lines, toList_render, Text.count_flatMap_append, contents, List.length_cons,
    List.length_map, List.map_cons, List.map_map, List.sum_cons, hheading, hrow, Nat.zero_add]

end Table

/-! ## Instructions -/

theorem Lexeme.notMem_intercalate {lexemes : List Lexeme} {c : Char}
    (h : ∀ l ∈ lexemes, HasShape l.shape l.text) (hblank : Text.isBlank c = true)
    (hspace : c ≠ ' ') : c ∉ [' '].intercalate (lexemes.map Lexeme.text) := by
  have hlexeme {l : Lexeme} (hl : HasShape l.shape l.text) : c ∉ l.text := by
    intro hmem
    rw [hl.isBlank_eq_false c hmem] at hblank
    cases hblank
  induction lexemes with
  | nil => exact List.not_mem_nil
  | cons l lexemes ih =>
    rw [List.forall_mem_cons] at h
    cases lexemes with
    | nil =>
      rw [List.map_singleton, List.intercalate_singleton]
      exact hlexeme h.1
    | cons next lexemes =>
      rw [List.map_cons, List.map_cons, List.intercalate_cons_cons, List.mem_append,
        List.mem_append, List.mem_singleton, not_or, not_or]
      exact ⟨⟨hlexeme h.1, hspace⟩, ih h.2⟩

namespace Token

variable {ranges : List AddressRange}

theorem notMem_line_ofOperands (operands : String) :
    '\n' ∉ (line (ofOperands ranges operands)).toList := by
  rw [toList_line_ofOperands]
  exact Lexeme.notMem_intercalate (Lexeme.segments_split operands.toList).hasShape rfl (by decide)

theorem count_line_ofInstruction (mnemonic operands : String) :
    (line (ofInstruction ranges mnemonic operands)).toList.count '\n' =
      (Text.trim mnemonic).toList.count '\n' := by
  have hspace : " ".toList.count '\n' = 0 := rfl
  have hnone : (line (ofOperands ranges operands)).toList.count '\n' = 0 :=
    List.count_eq_zero.mpr (notMem_line_ofOperands operands)
  rw [ofInstruction, line_cons, String.toList_append, List.count_append]
  split
  · rw [String.toList_empty, List.count_nil, Nat.add_zero]
  · rw [String.toList_append, List.count_append, hspace, hnone, Nat.add_zero]

end Token

/-! ## Searches -/

namespace Report

open Binary (routines)
open Match (found mem_found_iff lookup_eq_map_found)

/-- **How many lines the table of a search has.**  One for the headings, one for each find, and one
for each line feed in the name of the function and in the mnemonic of an instruction that is found.
So there is one line for each find exactly if no function in which something is found has a line
feed in its name, and no instruction that is found has one in its mnemonic. -/
theorem length_lines_plaintext {loader : Loader} {file : Object.File} {b : Binary}
    (hload : (Binary.ofFileWith loader file).2 = .ok b) (policy : Policy) (v : UInt64) :
    (Text.lines (plaintext ⟨v, Match.lookup policy v b.functions⟩).toList).length =
        (Match.lookup policy v b.functions).length + 1 +
          ((found policy v b.mapped (routines loader file)).map fun p =>
            p.1.symbol.name.toList.count '\n' + (Text.trim p.2.mnemonic).toList.count '\n').sum ∧
    ((Text.lines (plaintext ⟨v, Match.lookup policy v b.functions⟩).toList).length =
        (Match.lookup policy v b.functions).length + 1 ↔
      ∀ r ∈ routines loader file, ∀ i ∈ r.body,
        policy.admits v (Token.ofInstruction b.mapped i.mnemonic i.operands) = true →
          '\n' ∉ r.symbol.name.toList ∧ '\n' ∉ (Text.trim i.mnemonic).toList) := by
  obtain ⟨image, d, hloaded⟩ := Binary.exists_isLoaded hload
  have hlines := Table.length_lines_render (Match.lookup policy v b.functions)
  have hfeeds : (Match.lookup policy v b.functions).map Table.lineFeeds =
      (found policy v b.mapped (routines loader file)).map fun p =>
        p.1.symbol.name.toList.count '\n' + (Text.trim p.2.mnemonic).toList.count '\n' := by
    rw [hloaded.functions_eq, lookup_eq_map_found, List.map_map]
    refine List.map_congr_left fun p _ => ?_
    rw [Function.comp_apply, Table.lineFeeds, Match.ofFound, Token.count_line_ofInstruction]
  rw [hfeeds] at hlines
  refine ⟨hlines, ?_⟩
  rw [plaintext, hlines, Nat.add_eq_left, List.sum_eq_zero_iff_forall_eq_nat,
    List.forall_mem_map]
  simp only [Prod.forall, mem_found_iff, Nat.add_eq_zero_iff, List.count_eq_zero, and_imp]
  exact ⟨fun h r hr i => h r i hr, fun h r i hr => h r hr i⟩

/-- An object with a function that pushes sixteen and returns, and has a line feed in its name. -/
def twoLineObject : Object.File :=
  Binary.objectFile 0x8664 [{ code := [0x6a, 0x10, 0xc3], symbols := [("one\ntwo", 3)] }]

/-- What is listed of the object. -/
def twoLineBinary : Binary where
  architecture := .x86_64
  mapped := []
  functions := [{
    name := "one\ntwo"
    start := 0
    instructions := [
      { address := 0, tokens := [⟨.instruction, "push", 0⟩, ⟨.integer, "0x10", 16⟩] },
      { address := 2, tokens := [⟨.instruction, "ret", 0⟩] }] }]

theorem ofFileWith_twoLineObject :
    (Binary.ofFileWith .builtIn twoLineObject).2 = .ok twoLineBinary := by
  decide +kernel

/-- The table of the one find is three lines long, since there is a line feed in its name. -/
theorem length_lines_twoLineBinary :
    (Binary.ofFileWith .builtIn twoLineObject).2 = .ok twoLineBinary ∧
      Match.lookup .immediates 16 twoLineBinary.functions = [⟨0, "one\ntwo", "push 0x10"⟩] ∧
      (Text.lines (plaintext
        ⟨16, Match.lookup .immediates 16 twoLineBinary.functions⟩).toList).length = 3 := by
  refine ⟨ofFileWith_twoLineObject, by decide +kernel, ?_⟩
  rw [(length_lines_plaintext ofFileWith_twoLineObject .immediates 16).1]
  decide +kernel

/-- It is not so that the table of a search has as many lines as finds and one for the headings,
whatever the names in the object file are: here a name makes one find look like two. -/
theorem not_forall_length_lines : ¬∀ file b policy v,
    (Binary.ofFileWith .builtIn file).2 = .ok b →
      (Text.lines (plaintext ⟨v, Match.lookup policy v b.functions⟩).toList).length =
        (Match.lookup policy v b.functions).length + 1 := by
  intro hall
  have hlines := hall twoLineObject twoLineBinary .immediates 16 ofFileWith_twoLineObject
  exact absurd hlines (by decide +kernel)

end Report
end OperandSearch
