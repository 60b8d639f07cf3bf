import OperandSearch.Operand.Lexer
import OperandSearch.Proofs.Segmentation

/-!
# Literals of operand text and the words they store

A literal of operand text denotes an integer: an optional `#`, an optional minus sign, and
then hexadecimal digits behind `0x` or `0X`, or decimal digits (`Lexeme.Denotes`).  Lexing
finds literals by shape and turns them into tokens by the reader of immediates, which knows
another grammar.  Here the two are brought together.

* Among the lexemes of a text, those of the shape `literal` are exactly those that denote an
  integer (`shape_eq_literal_iff`): a lexeme of another shape starts with no digit, and with
  `#` or a minus sign only if it is that character alone.
* The token of such a lexeme is a number exactly if a word stores the integer, and then that
  word is its value (`numeric_ofLexeme_iff`).
-/

namespace OperandSearch
namespace Lexeme

open Immediate (IsMark IsSign IsGroups Written Stores signed)

/-- A text denotes an integer: the text of a literal with the value of its digits. -/
inductive Denotes : List Char → ℤ → Prop
  | intro (hash negative : Bool) {radix : Radix} {mark digits : List Char}
      (hmark : IsMark radix mark) (hne : digits ≠ [])
      (hdigits : ∀ c ∈ digits, radix.isDigit c = true) :
      Denotes
        ((if hash then ['#'] else []) ++ (if negative then ['-'] else []) ++ mark ++ digits)
        (signed negative (Numeral.value radix digits))

theorem Denotes.isLiteral {text : List Char} {n : ℤ} (h : Denotes text n) :
    ∃ radix digits, IsLiteral radix digits text := by
  obtain @⟨hash, negative, radix, mark, digits, hmark, hne, hdigits⟩ := h
  refine ⟨radix, digits, ?_⟩
  rw [List.append_assoc]
  exact .intro hash negative (.intro hmark hne hdigits)

theorem IsLiteral.exists_denotes {radix : Radix} {digits text : List Char}
    (h : IsLiteral radix digits text) : ∃ n, Denotes text n := by
  obtain ⟨hash, negative, hmark, hne, hdigits⟩ := h
  rw [← List.append_assoc]
  exact ⟨_, .intro hash negative hmark hne hdigits⟩

/-! ## The shapes of lexemes -/

/-- A text of a shape is one of a literal only if that is its shape. -/
theorem HasShape.eq_literal {shape : Shape} {radix : Radix} {digits text : List Char}
    (h : HasShape shape text) (hliteral : IsLiteral radix digits text) : shape = .literal := by
  cases h with
  | literal => rfl
  | separator | openBracket | closeBracket | markedBracket | leftBrace | rightBrace =>
    exact absurd (by decide) hliteral.notMem_punctuation
  | word hc _ =>
    obtain ⟨d, tail, hcons, hd⟩ := hliteral.exists_cons
    obtain ⟨rfl, -⟩ := List.cons.inj hcons
    rcases hd with hd | ⟨rfl | rfl, -⟩
    · rw [isDigit_of_startsWord hc] at hd
      cases hd
    · exact absurd hc (by decide)
    · exact absurd hc (by decide)
  | other _ _ hdigit _ =>
    obtain ⟨d, tail, hcons, hd⟩ := hliteral.exists_cons
    obtain ⟨rfl, rfl⟩ := List.cons.inj hcons
    rcases hd with hd | ⟨-, hne⟩
    · rw [hdigit] at hd
      cases hd
    · exact absurd rfl hne

/-- **Literals by shape and by what they denote.**  Of the lexemes of a text, exactly those of
the shape of a literal denote an integer. -/
theorem shape_eq_literal_iff {cs : List Char} {l : Lexeme} (h : l ∈ split cs) :
    l.shape = .literal ↔ ∃ n, Denotes l.text n := by
  have hshape := (segments_split cs).hasShape l h
  constructor
  · intro hliteral
    rw [hliteral] at hshape
    cases hshape with
    | literal hliteral => exact hliteral.exists_denotes
  · rintro ⟨n, hn⟩
    obtain ⟨radix, digits, hliteral⟩ := hn.isLiteral
    exact hshape.eq_literal hliteral

/-! ## Reading a literal -/

/-- A text that starts with no `#` keeps everything when leading `#` are dropped. -/
theorem dropWhile_hash_of_head? {hash : Bool} {cs : List Char} (h : '#' ∉ cs.head?) :
    ((if hash then ['#'] else []) ++ cs).dropWhile (· == '#') = cs := by
  refine Text.dropWhile_append_of_head? (by cases hash <;> simp) fun c hc => ?_
  rw [beq_eq_false_iff_ne]
  rintro rfl
  exact h hc

/-- Without its `#`, a literal is a text of the grammar of immediates, and it writes the
integer that the literal denotes. -/
theorem Denotes.written {text : List Char} {n : ℤ} (h : Denotes text n) :
    Written (text.dropWhile (· == '#')) n := by
  obtain @⟨hash, negative, radix, mark, digits, hmark, hne, hdigits⟩ := h
  have hsign : IsSign negative (if negative then ['-'] else []) := by
    cases negative
    · exact .absent
    · exact .minus
  have hgroups : IsGroups radix [digits] := ⟨by simp, by simpa using ⟨hne, hdigits⟩⟩
  have hwritten := Written.intro hsign hmark hgroups
  rw [List.intercalate_singleton, List.flatten_singleton] at hwritten
  rwa [List.append_assoc, List.append_assoc, dropWhile_hash_of_head?, ← List.append_assoc]
  obtain ⟨c, rest, rfl⟩ := List.exists_cons_of_ne_nil hne
  have hc : c ≠ '#' := by
    rintro rfl
    exact absurd (hdigits '#' List.mem_cons_self) (by cases radix <;> decide)
  cases negative <;> cases hmark <;> simp [hc]

theorem Denotes.unique {text : List Char} {m n : ℤ} (hm : Denotes text m)
    (hn : Denotes text n) : m = n :=
  hm.written.unique hn.written

/-- **What reading a literal finds.**  It is accepted exactly with the word that stores the
integer it denotes. -/
theorem Denotes.parseChars_eq_ok_iff {text : List Char} {n : ℤ} {v : UInt64}
    (h : Denotes text n) :
    Immediate.parseChars (text.dropWhile (· == '#')) = .ok v ↔ Stores v n :=
  h.written.parseChars_eq_ok_iff

/-- **Why a literal is not read.**  Only because the integer it denotes is out of range. -/
theorem Denotes.parseChars_eq_error_iff {text : List Char} {n : ℤ} {reason : Immediate.Reason}
    (h : Denotes text n) : Immediate.parseChars (text.dropWhile (· == '#')) = .error reason ↔
      Immediate.OutOfRange n reason :=
  h.written.parseChars_eq_error_iff

end Lexeme

theorem AddressRange.mapped_iff {ranges : List AddressRange} {v : UInt64} :
    AddressRange.mapped ranges v = true ↔
      v ≠ 0 ∧ ∃ range ∈ ranges, range.start ≤ v ∧ v < range.stop := by
  simp [AddressRange.mapped, AddressRange.contains]

namespace Token

open Lexeme (Denotes)
open Immediate (Stores)

variable {ranges : List AddressRange}

/-- The token of a literal is a number exactly if a word stores what the literal denotes, and
then that word is its value. -/
theorem numeric_ofLiteral_iff {text : List Char} {n : ℤ} {v : UInt64} (h : Denotes text n) :
    ((ofLiteral ranges text).kind.isNumeric = true ∧ (ofLiteral ranges text).value = v) ↔
      Stores v n := by
  rw [← h.parseChars_eq_ok_iff, ofLiteral]
  cases Immediate.parseChars (text.dropWhile (· == '#')) with
  | error reason => simp [TokenKind.isNumeric]
  | ok w =>
    have hnumeric : (if AddressRange.mapped ranges w then TokenKind.possibleAddress
        else .integer).isNumeric = true := by
      split <;> rfl
    simp [hnumeric]

theorem isNumeric_ofLexeme_of_shape_ne {l : Lexeme} (h : l.shape ≠ .literal) :
    (ofLexeme ranges l).kind.isNumeric = false := by
  rw [ofLexeme]
  cases hshape : l.shape with
  | literal => exact absurd hshape h
  | word =>
    simp only
    split <;> rfl
  | _ => rfl

/-- **Which lexemes become numbers, and which.**  The token of a lexeme of a text is a number
of the value `v` exactly if the lexeme denotes an integer that `v` stores. -/
theorem numeric_ofLexeme_iff {cs : List Char} {l : Lexeme} {v : UInt64}
    (h : l ∈ Lexeme.split cs) :
    ((ofLexeme ranges l).kind.isNumeric = true ∧ (ofLexeme ranges l).value = v) ↔
      ∃ n, Denotes l.text n ∧ Stores v n := by
  by_cases hshape : l.shape = .literal
  · obtain ⟨n, hn⟩ := (Lexeme.shape_eq_literal_iff h).mp hshape
    have htoken : ofLexeme ranges l = ofLiteral ranges l.text := by
      rw [ofLexeme, hshape]
    rw [htoken, numeric_ofLiteral_iff hn]
    constructor
    · exact fun hv => ⟨n, hn, hv⟩
    · rintro ⟨m, hm, hv⟩
      rwa [hn.unique hm]
  · rw [isNumeric_ofLexeme_of_shape_ne hshape]
    simp only [Bool.false_eq_true, false_and, false_iff, not_exists, not_and]
    intro n hn _
    exact hshape ((Lexeme.shape_eq_literal_iff h).mpr ⟨n, hn⟩)

end Token
end OperandSearch
