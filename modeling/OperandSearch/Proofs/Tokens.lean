import Mathlib.Data.List.Forall2
import OperandSearch.Proofs.Literal

/-!
# The tokens of an instruction

The tokens of an instruction are its mnemonic and one token for each lexeme of its operands.
`Describes` says what the token of a lexeme is, without the reader of immediates: a literal is a
number if the integer it denotes fits a word, and of the numbers those are possible addresses
that point into a range; a word is a keyword if it is one of the list in lower-case letters.

Together with what the lexemes of a text are (`Lexeme.split_eq_iff`) this determines the whole
list of tokens.
-/

namespace OperandSearch
namespace Token

open Lexeme (Denotes HasShape IsLiteral Segments)
open Immediate (Stores)

/-- A value points into one of the ranges, and is not zero. -/
def PointsInto (ranges : List AddressRange) (v : UInt64) : Prop :=
  v ≠ 0 ∧ ∃ range ∈ ranges, range.start ≤ v ∧ v < range.stop

/-- What a lexeme becomes: a token of its text, with a kind and a value. -/
inductive Describes (ranges : List AddressRange) : Lexeme → Token → Prop
  | separator {text : List Char} :
      Describes ranges ⟨.separator, text⟩ ⟨.operandSeparator, String.ofList text, 0⟩
  | openBracket {text : List Char} :
      Describes ranges ⟨.openBracket, text⟩ ⟨.beginMemoryOperand, String.ofList text, 0⟩
  | closeBracket {text : List Char} :
      Describes ranges ⟨.closeBracket, text⟩ ⟨.endMemoryOperand, String.ofList text, 0⟩
  | brace {text : List Char} :
      Describes ranges ⟨.brace, text⟩ ⟨.brace, String.ofList text, 0⟩
  | possibleAddress {text : List Char} {n : ℤ} {v : UInt64} (hn : Denotes text n)
      (hv : Stores v n) (hpoints : PointsInto ranges v) :
      Describes ranges ⟨.literal, text⟩ ⟨.possibleAddress, String.ofList text, v⟩
  | integer {text : List Char} {n : ℤ} {v : UInt64} (hn : Denotes text n)
      (hv : Stores v n) (hpoints : ¬PointsInto ranges v) :
      Describes ranges ⟨.literal, text⟩ ⟨.integer, String.ofList text, v⟩
  | oversized {text : List Char} {n : ℤ} (hn : Denotes text n)
      (hrange : ¬(-2 ^ 63 ≤ n ∧ n < 2 ^ 64)) :
      Describes ranges ⟨.literal, text⟩ ⟨.text, String.ofList text, 0⟩
  | keyword {text : List Char} (hword : String.ofList (text.map Char.toLower) ∈ keywords) :
      Describes ranges ⟨.word, text⟩ ⟨.keyword, String.ofList text, 0⟩
  | register {text : List Char} (hword : String.ofList (text.map Char.toLower) ∉ keywords) :
      Describes ranges ⟨.word, text⟩ ⟨.register, String.ofList text, 0⟩
  | other {text : List Char} :
      Describes ranges ⟨.other, text⟩ ⟨.text, String.ofList text, 0⟩

variable {ranges : List AddressRange}

theorem isKeyword_iff {word : List Char} :
    isKeyword word = true ↔ String.ofList (word.map Char.toLower) ∈ keywords := by
  rw [isKeyword, List.contains_iff_mem]

theorem ofLiteral_of_stores {text : List Char} {n : ℤ} {v : UInt64} (hn : Denotes text n)
    (hv : Stores v n) : ofLiteral ranges text =
      ⟨if AddressRange.mapped ranges v then .possibleAddress else .integer,
        String.ofList text, v⟩ := by
  rw [ofLiteral, hn.parseChars_eq_ok_iff.mpr hv]

theorem ofLiteral_of_oversized {text : List Char} {n : ℤ} (hn : Denotes text n)
    (hrange : ¬(-2 ^ 63 ≤ n ∧ n < 2 ^ 64)) :
    ofLiteral ranges text = ⟨.text, String.ofList text, 0⟩ := by
  rw [ofLiteral]
  cases hparse : Immediate.parseChars (text.dropWhile (· == '#')) with
  | error reason => rfl
  | ok v =>
    have hstores : ∃ v, Stores v n := ⟨v, hn.parseChars_eq_ok_iff.mp hparse⟩
    exact absurd (Immediate.exists_stores_iff.mp hstores) hrange

/-- A lexeme becomes what describes it. -/
theorem Describes.ofLexeme_eq {l : Lexeme} {t : Token} (h : Describes ranges l t) :
    ofLexeme ranges l = t := by
  cases h with
  | separator | openBracket | closeBracket | brace | other => rfl
  | possibleAddress hn hv hpoints =>
    have hmapped := AddressRange.mapped_iff.mpr hpoints
    rw [ofLexeme, ofLiteral_of_stores hn hv, if_pos hmapped]
  | integer hn hv hpoints =>
    have hmapped := mt AddressRange.mapped_iff.mp hpoints
    rw [ofLexeme, ofLiteral_of_stores hn hv, if_neg hmapped]
  | oversized hn hrange => exact ofLiteral_of_oversized hn hrange
  | keyword hword => simp only [ofLexeme, isKeyword_iff.mpr hword, if_true]
  | register hword =>
    have hkeyword := mt isKeyword_iff.mp hword
    simp only [ofLexeme, hkeyword, if_false, Bool.false_eq_true]

theorem Describes.text_eq {l : Lexeme} {t : Token} (h : Describes ranges l t) :
    t.text = String.ofList l.text := by
  cases h <;> rfl

theorem describes_ofLexeme {l : Lexeme} (h : HasShape l.shape l.text) :
    Describes ranges l (ofLexeme ranges l) := by
  obtain ⟨shape, text⟩ := l
  cases shape with
  | separator => exact .separator
  | openBracket => exact .openBracket
  | closeBracket => exact .closeBracket
  | brace => exact .brace
  | other => exact .other
  | literal =>
    obtain ⟨n, hn⟩ : ∃ n, Denotes text n := by
      cases h with
      | literal hliteral => exact hliteral.exists_denotes
    rw [ofLexeme]
    by_cases hrange : -2 ^ 63 ≤ n ∧ n < 2 ^ 64
    · obtain ⟨v, hv⟩ := Immediate.exists_stores_iff.mpr hrange
      rw [ofLiteral_of_stores hn hv]
      by_cases hpoints : PointsInto ranges v
      · rw [if_pos (AddressRange.mapped_iff.mpr hpoints)]
        exact .possibleAddress hn hv hpoints
      · rw [if_neg (mt AddressRange.mapped_iff.mp hpoints)]
        exact .integer hn hv hpoints
    · rw [ofLiteral_of_oversized hn hrange]
      exact .oversized hn hrange
  | word =>
    by_cases hword : String.ofList (text.map Char.toLower) ∈ keywords
    · simp only [ofLexeme, isKeyword_iff.mpr hword, if_true]
      exact .keyword hword
    · have hkeyword := mt isKeyword_iff.mp hword
      simp only [ofLexeme, hkeyword, if_false, Bool.false_eq_true]
      exact .register hword

/-- The tokens of lexemes are the only list that describes them one by one. -/
theorem forall₂_describes_iff {lexemes : List Lexeme} {tokens : List Token}
    (h : ∀ l ∈ lexemes, HasShape l.shape l.text) :
    List.Forall₂ (Describes ranges) lexemes tokens ↔ lexemes.map (ofLexeme ranges) = tokens := by
  constructor
  · intro hdescribes
    induction hdescribes with
    | nil => rfl
    | cons hl _ ih =>
      rw [List.forall_mem_cons] at h
      rw [List.map_cons, hl.ofLexeme_eq, ih h.2]
  · rintro rfl
    rw [List.forall₂_map_right_iff, List.forall₂_same]
    exact fun l hl => describes_ofLexeme (h l hl)

/-- **The tokens of an instruction.**  They are the mnemonic and behind it the tokens that
describe, one by one, the lexemes that the operands fall into; and no other list of tokens is
that. -/
theorem ofInstruction_eq_iff (ranges : List AddressRange) (mnemonic operands : String)
    (tokens : List Token) : ofInstruction ranges mnemonic operands = tokens ↔
      ∃ lexemes described, Segments operands.toList lexemes ∧
        List.Forall₂ (Describes ranges) lexemes described ∧
        tokens = ⟨.instruction, mnemonic, 0⟩ :: described := by
  constructor
  · rintro rfl
    have hsegments : Segments operands.toList _ := Lexeme.split_eq_iff.mp rfl
    exact ⟨_, _, hsegments, (forall₂_describes_iff hsegments.hasShape).mpr rfl, rfl⟩
  · rintro ⟨lexemes, described, hsegments, hdescribed, rfl⟩
    rw [forall₂_describes_iff hsegments.hasShape] at hdescribed
    rw [ofInstruction, ofOperands, Lexeme.split_eq_iff.mpr hsegments, hdescribed]

end Token
end OperandSearch
