import OperandSearch.Proofs.Tokens

/-!
# Operands written with spaces

In a report the operands of an instruction stand as the line of their tokens: the texts of the
tokens with one space between neighbours.  The spaces change what stands behind each lexeme, and
on that depends where a lexeme ends.  But a blank is one of the characters in front of which, as at
the end of the text, every lexeme can end (`HasShape.endsBefore`): it goes on in no word and in no
literal, and it makes no literal of a lone `#` or minus sign.  So lexemes written with spaces fall
into the same lexemes again, wherever they were cut out of (`split_intercalate`).

The line is therefore a normal form of the operands: lexing it gives the tokens back, and two
operand texts with the same line have the same tokens.
-/

namespace OperandSearch
namespace Lexeme

/-- A character in front of which every lexeme can end: it goes on in no word and no literal, does
not mark a closing bracket, and is no minus sign, of which a lone `#` could become a literal. -/
structure Separates (c : Char) : Prop where
  continuesWord : continuesWord c = false
  ne_mark : c ≠ '!'
  ne_minus : c ≠ '-'

theorem continuesWord_of_isDigit {radix : Radix} {c : Char} (h : radix.isDigit c = true) :
    continuesWord c = true := by
  have hbounds := Radix.toNat_bounds_of_isDigit h
  rw [continuesWord, Bool.or_eq_true, startsWord_iff_toNat, isDigit_iff_toNat]
  omega

/-- What separates is no digit. -/
theorem Separates.isDigit {c : Char} (h : Separates c) (radix : Radix) :
    radix.isDigit c = false := by
  by_contra hdigit
  have hcontinues := continuesWord_of_isDigit (Bool.eq_true_of_not_eq_false hdigit)
  rw [h.continuesWord] at hcontinues
  cases hcontinues

theorem separates_of_isBlank {c : Char} (h : Text.isBlank c = true) : Separates c := by
  refine ⟨?_, ?_, ?_⟩
  · by_contra hcontinues
    have hblank := isBlank_of_continuesWord (Bool.eq_true_of_not_eq_false hcontinues)
    rw [h] at hblank
    cases hblank
  · rintro rfl
    exact absurd h (by decide)
  · rintro rfl
    exact absurd h (by decide)

/-- In front of what separates, and at the end of a text, every lexeme can end. -/
theorem HasShape.endsBefore {l : Lexeme} {rest : List Char} (h : HasShape l.shape l.text)
    (hrest : ∀ c ∈ rest.head?, Separates c) : EndsBefore l rest := by
  have hdigit (radix : Radix) : ∀ d ∈ rest.head?, radix.isDigit d = false :=
    fun d hd => (hrest d hd).isDigit radix
  have hnone : NoDigit rest := by
    intro d hd
    rw [← Radix.isDigit_decimal]
    exact hdigit .decimal d hd
  obtain ⟨shape, text⟩ := l
  cases h with
  | separator | openBracket | leftBrace | rightBrace => exact trivial
  | closeBracket | markedBracket => exact fun _ hmark => (hrest _ hmark).ne_mark rfl
  | @literal radix digits _ hliteral =>
    refine ⟨radix, digits, hliteral, hdigit radix, ?_⟩
    rintro - - x d tail rfl hx
    have hx' := (hrest x rfl).continuesWord
    rcases hx with rfl | rfl <;> exact absurd hx' (by decide)
  | word => exact fun d hd => (hrest d hd).continuesWord
  | other =>
    refine ⟨fun _ => hnone, fun _ => ⟨hnone, ?_⟩⟩
    rintro tail rfl
    exact absurd rfl (hrest '-' rfl).ne_minus

theorem HasShape.starts {l : Lexeme} {rest : List Char} (h : HasShape l.shape l.text)
    (hrest : ∀ c ∈ rest.head?, Text.isBlank c = true) : Starts (l.text ++ rest) l rest :=
  ⟨rfl, h, h.endsBefore fun c hc => separates_of_isBlank (hrest c hc)⟩

theorem segments_intercalate {lexemes : List Lexeme}
    (h : ∀ l ∈ lexemes, HasShape l.shape l.text) :
    Segments ([' '].intercalate (lexemes.map Lexeme.text)) lexemes := by
  induction lexemes with
  | nil => exact .nil
  | cons l lexemes ih =>
    rw [List.forall_mem_cons] at h
    cases lexemes with
    | nil =>
      rw [List.map_singleton, List.intercalate_singleton, ← List.append_nil l.text]
      exact .lexeme (h.1.starts (by simp)) h.1.isBlank_eq_false .nil
    | cons next lexemes =>
      rw [List.map_cons, List.map_cons, List.intercalate_cons_cons, List.append_assoc]
      refine .lexeme (h.1.starts ?_) h.1.isBlank_eq_false (.blank (by decide) (ih h.2))
      rintro c ⟨⟩
      decide

/-- **Lexemes survive being written with spaces.**  What a text falls into is what the line of its
lexemes falls into. -/
theorem split_intercalate (cs : List Char) :
    split ([' '].intercalate ((split cs).map Lexeme.text)) = split cs :=
  (segments_intercalate (segments_split cs).hasShape).split_eq

/-- The zero of `0xg` is a lexeme of its own, and still one when a space follows it. -/
example : [' '].intercalate ((split "0xg,[#-0x10]!".toList).map Lexeme.text) =
    "0 xg , [ #-0x10 ]!".toList := by
  decide +kernel

end Lexeme

namespace Token

variable {ranges : List AddressRange}

theorem trim_text_ofLexeme {l : Lexeme} (h : Lexeme.HasShape l.shape l.text) :
    Text.trim (ofLexeme ranges l).text = String.ofList l.text := by
  have hblank := h.isBlank_eq_false
  rw [(describes_ofLexeme h).text_eq, Text.trim, String.toList_ofList, Text.trimChars_eq_self]
  · exact fun c hc => hblank c (List.mem_of_mem_head? hc)
  · exact fun c hc => hblank c (List.mem_of_mem_getLast? hc)

/-- The line of an operand text is the line of its lexemes. -/
theorem toList_line_ofOperands (operands : String) :
    (line (ofOperands ranges operands)).toList =
      [' '].intercalate ((Lexeme.split operands.toList).map Lexeme.text) := by
  have hspace : " ".toList = [' '] := rfl
  rw [line, String.toList_intercalate, hspace, ofOperands, List.map_map, List.map_map]
  refine congrArg _ (List.map_congr_left fun l hl => ?_)
  have hshape := (Lexeme.segments_split operands.toList).hasShape l hl
  rw [Function.comp_apply, Function.comp_apply, trim_text_ofLexeme hshape, String.toList_ofList]

/-- Lexing the line of an operand text gives its tokens. -/
theorem ofOperands_line (operands : String) :
    ofOperands ranges (line (ofOperands ranges operands)) = ofOperands ranges operands := by
  rw [ofOperands, toList_line_ofOperands, Lexeme.split_intercalate, ← ofOperands]

theorem ofOperands_eq_iff {first second : String} :
    ofOperands ranges first = ofOperands ranges second ↔
      line (ofOperands ranges first) = line (ofOperands ranges second) := by
  constructor
  · exact congrArg line
  · intro h
    rw [← ofOperands_line first, h, ofOperands_line]

/-- The line of a list of tokens is the text of the first and, if there are others, a space and
the line of those. -/
theorem line_cons (t : Token) (tokens : List Token) :
    line (t :: tokens) = Text.trim t.text ++ if tokens = [] then "" else " " ++ line tokens := by
  cases tokens with
  | nil => simp [line]
  | cons next tokens => simp [line, String.intercalate_cons_cons, String.append_assoc]

theorem line_cons_inj {t : Token} {front back : List Token}
    (h : line (t :: front) = line (t :: back)) : line front = line back := by
  have hspaced (s : String) : "" ≠ " " ++ s := by
    intro hempty
    have hone : " ".length = 1 := rfl
    have hlength := congrArg String.length hempty
    rw [String.length_append, hone, String.length_empty] at hlength
    omega
  rw [line_cons, line_cons, String.append_right_inj] at h
  cases front with
  | nil =>
    cases back with
    | nil => rfl
    | cons next back => exact absurd h (hspaced _)
  | cons first front =>
    cases back with
    | nil => exact absurd h.symm (hspaced _)
    | cons next back => exact (String.append_right_inj " ").mp h

/-- **The line of the operands is a normal form.**  Lexing the line of the operand tokens of an
instruction gives its tokens again.  So operands whose lines are the same have the same tokens, and
two instructions with one mnemonic have the same line in a report only if all their tokens are the
same. -/
theorem ofInstruction_line (ranges : List AddressRange) (mnemonic operands : String) :
    ofInstruction ranges mnemonic (line (ofInstruction ranges mnemonic operands).tail) =
        ofInstruction ranges mnemonic operands ∧
      ∀ other : String,
        (ofInstruction ranges mnemonic operands = ofInstruction ranges mnemonic other ↔
          line (ofInstruction ranges mnemonic operands).tail =
            line (ofInstruction ranges mnemonic other).tail) ∧
        (ofInstruction ranges mnemonic operands = ofInstruction ranges mnemonic other ↔
          line (ofInstruction ranges mnemonic operands) =
            line (ofInstruction ranges mnemonic other)) := by
  have htail (text : String) :
      (ofInstruction ranges mnemonic text).tail = ofOperands ranges text := rfl
  have heq (other : String) :
      ofInstruction ranges mnemonic operands = ofInstruction ranges mnemonic other ↔
        line (ofOperands ranges operands) = line (ofOperands ranges other) := by
    rw [ofInstruction, ofInstruction, List.cons_inj_right, ofOperands_eq_iff]
  refine ⟨?_, fun other => ⟨?_, ?_⟩⟩
  · rw [htail, ofInstruction, ofOperands_line, ← ofInstruction]
  · rw [htail, htail, heq]
  · constructor
    · exact congrArg line
    · intro hline
      exact (heq other).mpr (line_cons_inj hline)

end Token
end OperandSearch
