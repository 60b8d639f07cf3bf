import OperandSearch.Proofs.Policy
import OperandSearch.Proofs.Tokens

/-!
# What becomes of the literals of an instruction

Each lexeme of an operand text becomes one token.  For the lexemes that denote an integer this
module says which: a number with the residue of the integer if the integer fits a word, signed or
unsigned, and otherwise text without a value (`LiteralToken`).  The ranges only tell possible
addresses from other numbers, and may be empty, inverted, or lie on each other.

No other lexeme becomes a number or has a value, and neither does the mnemonic.
-/

namespace OperandSearch
namespace Token

open Lexeme (Denotes)
open Immediate (OutOfRange)

variable {ranges : List AddressRange}

/-- The token that a literal becomes which has a text and denotes an integer. -/
structure LiteralToken (ranges : List AddressRange) (text : List Char) (n : ℤ) (t : Token) :
    Prop where
  /-- The text is kept whole, whatever becomes of it. -/
  text : t.text = String.ofList text
  /-- The token is a number exactly if the integer fits a word. -/
  isNumeric_iff : t.kind.isNumeric = true ↔ -2 ^ 63 ≤ n ∧ n < 2 ^ 64
  /-- A number has the residue of the integer. -/
  value : t.kind.isNumeric = true → (t.value.toNat : ℤ) = n % 2 ^ 64
  /-- A number may be an address exactly if it points into one of the ranges. -/
  possibleAddress_iff :
    t.kind = .possibleAddress ↔ t.kind.isNumeric = true ∧ PointsInto ranges t.value
  /-- Any other number is just a number. -/
  integer_iff : t.kind = .integer ↔ t.kind.isNumeric = true ∧ ¬PointsInto ranges t.value
  /-- What is no number is text without a value. -/
  oversized : t.kind.isNumeric = false → t.kind = .text ∧ t.value = 0

/-- What describes a literal is the token that the literal becomes. -/
theorem Describes.literalToken {l : Lexeme} {t : Token} {n : ℤ} (h : Describes ranges l t)
    (hn : Denotes l.text n) (hshape : l.shape = .literal) : LiteralToken ranges l.text n t := by
  cases h with
  | @possibleAddress text m v hm hv hpoints =>
    obtain rfl := hm.written.unique hn.written
    exact {
      text := rfl
      isNumeric_iff := iff_of_true rfl ⟨hv.lower, hv.upper⟩
      value := fun _ => hv.residue
      possibleAddress_iff := iff_of_true rfl ⟨rfl, hpoints⟩
      integer_iff := iff_of_false nofun fun hinteger => hinteger.2 hpoints
      oversized := nofun }
  | @integer text m v hm hv hpoints =>
    obtain rfl := hm.written.unique hn.written
    exact {
      text := rfl
      isNumeric_iff := iff_of_true rfl ⟨hv.lower, hv.upper⟩
      value := fun _ => hv.residue
      possibleAddress_iff := iff_of_false nofun fun haddress => hpoints haddress.2
      integer_iff := iff_of_true rfl ⟨rfl, hpoints⟩
      oversized := nofun }
  | @oversized text m hm hrange =>
    obtain rfl := hm.written.unique hn.written
    exact {
      text := rfl
      isNumeric_iff := iff_of_false nofun hrange
      value := nofun
      possibleAddress_iff := iff_of_false nofun fun haddress => absurd haddress.1 nofun
      integer_iff := iff_of_false nofun fun hinteger => absurd hinteger.1 nofun
      oversized := fun _ => ⟨rfl, rfl⟩ }
  | _ => cases hshape

theorem value_ofLexeme_of_shape_ne {l : Lexeme} (h : l.shape ≠ .literal) :
    (ofLexeme ranges l).value = 0 := by
  rw [ofLexeme]
  cases hshape : l.shape with
  | literal => exact absurd hshape h
  | _ => rfl

/-- **The literals of an instruction and their tokens.**  The tokens of an instruction are its
mnemonic and behind it one token for each lexeme of the operands.  A lexeme that denotes an integer
becomes the token `LiteralToken` speaks of, and the reader of immediates refuses it, without its
`#`, for no other reason than the range of that integer.  Any other lexeme becomes no number and
has no value. -/
theorem ofInstruction_literals (ranges : List AddressRange) (mnemonic operands : String) :
    ofInstruction ranges mnemonic operands =
        ⟨.instruction, mnemonic, 0⟩ :: (Lexeme.split operands.toList).map (ofLexeme ranges) ∧
      ∀ l ∈ Lexeme.split operands.toList,
        (∀ n, Denotes l.text n → LiteralToken ranges l.text n (ofLexeme ranges l) ∧
          ∀ reason, Immediate.parse (String.ofList (l.text.dropWhile (· == '#'))) =
            .error reason ↔ OutOfRange n reason) ∧
        ((¬∃ n, Denotes l.text n) →
          (ofLexeme ranges l).kind.isNumeric = false ∧ (ofLexeme ranges l).value = 0) := by
  refine ⟨rfl, fun l hl => ⟨fun n hn => ⟨?_, fun reason => ?_⟩, fun hother => ?_⟩⟩
  · have hshape := (Lexeme.segments_split operands.toList).hasShape l hl
    exact (describes_ofLexeme hshape).literalToken hn ((Lexeme.shape_eq_literal_iff hl).mpr ⟨n, hn⟩)
  · rw [Immediate.parse, String.toList_ofList]
    exact hn.parseChars_eq_error_iff
  · have hshape : l.shape ≠ .literal := mt (Lexeme.shape_eq_literal_iff hl).mp hother
    exact ⟨isNumeric_ofLexeme_of_shape_ne hshape, value_ofLexeme_of_shape_ne hshape⟩

/-- Operands whose literals lie at the two ends of the range, the second one just behind it. -/
def boundaryOperands : String := "#-0x8000000000000000, 18446744073709551616"

/-- A range of one address, behind an empty and an inverted one. -/
def boundaryRanges : List AddressRange :=
  [⟨5, 5⟩, ⟨9, 3⟩, ⟨0x8000000000000000, 0x8000000000000001⟩]

/-- The lowest integer becomes an address, the first one above all words becomes text, and the comma
between them has no value. -/
theorem ofInstruction_boundaryOperands :
    LiteralToken boundaryRanges "#-0x8000000000000000".toList (-2 ^ 63)
        ⟨.possibleAddress, "#-0x8000000000000000", 0x8000000000000000⟩ ∧
      LiteralToken boundaryRanges "18446744073709551616".toList (2 ^ 64)
        ⟨.text, "18446744073709551616", 0⟩ ∧
      Immediate.parse "18446744073709551616" = .error .tooLarge ∧
      (ofLexeme boundaryRanges ⟨.separator, [',']⟩).value = 0 := by
  have hlowest : Denotes "#-0x8000000000000000".toList (-2 ^ 63) := by
    have hdigits := @Denotes.intro true true _ _ "8000000000000000".toList .lower
      (by decide) (List.all_eq_true.mp (by decide))
    have hvalue : Immediate.signed true
        (Numeral.value .hexadecimal "8000000000000000".toList) = -2 ^ 63 := by decide +kernel
    rwa [hvalue] at hdigits
  have hfirst : Denotes "18446744073709551616".toList (2 ^ 64) := by
    have hdigits := @Denotes.intro false false _ _ "18446744073709551616".toList .absent
      (by decide) (List.all_eq_true.mp (by decide))
    have hvalue : Immediate.signed false
        (Numeral.value .decimal "18446744073709551616".toList) = 2 ^ 64 := by decide +kernel
    rwa [hvalue] at hdigits
  have hliterals := (ofInstruction_literals boundaryRanges "dq" boundaryOperands).2
  obtain ⟨hlow, -⟩ := (hliterals ⟨.literal, "#-0x8000000000000000".toList⟩ (by decide +kernel)).1
    _ hlowest
  obtain ⟨hhigh, hparse⟩ := (hliterals ⟨.literal, "18446744073709551616".toList⟩
    (by decide +kernel)).1 _ hfirst
  have hcomma := (hliterals ⟨.separator, [',']⟩ (by decide +kernel)).2
  have hrange : OutOfRange (2 ^ 64) .tooLarge := show 2 ^ 64 ≤ (2 ^ 64 : ℤ).natAbs by decide
  refine ⟨?_, ?_, (hparse .tooLarge).mpr hrange, (hcomma ?_).2⟩
  · have htoken : ofLexeme boundaryRanges ⟨.literal, "#-0x8000000000000000".toList⟩ =
        ⟨.possibleAddress, "#-0x8000000000000000", 0x8000000000000000⟩ := by decide +kernel
    rwa [htoken] at hlow
  · have htoken : ofLexeme boundaryRanges ⟨.literal, "18446744073709551616".toList⟩ =
        ⟨.text, "18446744073709551616", 0⟩ := by decide +kernel
    rwa [htoken] at hhigh
  · rintro ⟨n, hn⟩
    obtain ⟨radix, digits, hliteral⟩ := hn.isLiteral
    exact absurd (show ',' ∈ Lexeme.punctuation by decide) hliteral.notMem_punctuation

end Token
end OperandSearch
