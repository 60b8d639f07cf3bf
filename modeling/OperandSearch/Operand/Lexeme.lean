import OperandSearch.Text.Blank
import OperandSearch.Text.Numeral

/-!
# Lexemes of operand text

The operands of an instruction are printed as one text.  This module cuts the text
into lexemes: blanks belong to none, every other character to exactly one, and at
each place the longest lexeme of the first fitting shape is taken.  The shapes, in
the order in which they are tried:

* a comma; an opening bracket; a closing bracket with the exclamation mark that may
  follow it; a brace;
* a literal, which is an optional `#`, an optional `-`, and then either `0x` or `0X`
  with at least one hexadecimal digit or a run of decimal digits;
* a word, which starts with a letter, `_`, `.` or `$` and goes on with those and
  digits;
* any other single character.

A `#` or `-` with no digits behind it is therefore a lexeme of its own, and so is
the `0` of a `0x` with no digits behind it.  The statement that makes the cutting
terminate is `length_rest_first`: a lexeme takes at least the character it starts
with.
-/

namespace OperandSearch

/-- What a piece of operand text looks like. -/
inductive Shape where
  | separator
  | openBracket
  | closeBracket
  | brace
  | literal
  | word
  | other
  deriving DecidableEq, Repr

/-- A piece of operand text with its shape. -/
structure Lexeme where
  shape : Shape
  text : List Char
  deriving DecidableEq, Repr

namespace Lexeme

/-- Whether a character can start a word: a letter of ASCII, `_`, `.` or `$`. -/
def startsWord (c : Char) : Bool :=
  c.isAlpha || c == '_' || c == '.' || c == '$'

/-- Whether a character can go on in a word. -/
def continuesWord (c : Char) : Bool :=
  startsWord c || c.isDigit

/-- The digits of a literal with their radix mark, and what follows them.  A mark
without a hexadecimal digit behind it is no mark, and the zero stands alone. -/
def takeDigits? (cs : List Char) : Option (List Char × List Char) :=
  match cs with
  | '0' :: x :: d :: rest =>
    if (x == 'x' || x == 'X') && Radix.hexadecimal.isDigit d then
      some ('0' :: x :: d :: rest.takeWhile Radix.hexadecimal.isDigit,
        rest.dropWhile Radix.hexadecimal.isDigit)
    else some (cs.takeWhile Char.isDigit, cs.dropWhile Char.isDigit)
  | c :: _ =>
    if c.isDigit then some (cs.takeWhile Char.isDigit, cs.dropWhile Char.isDigit)
    else none
  | [] => none

/-- Splits off a character if the text starts with it. -/
def takeMark (mark : Char) (cs : List Char) : List Char × List Char :=
  match cs with
  | c :: rest => if c = mark then ([c], rest) else ([], cs)
  | [] => ([], [])

/-- The literal at the start of a text, and what follows it. -/
def takeLiteral? (cs : List Char) : Option (List Char × List Char) :=
  let hash := takeMark '#' cs
  let sign := takeMark '-' hash.2
  (takeDigits? sign.2).map fun found => (hash.1 ++ sign.1 ++ found.1, found.2)

/-- The lexeme that starts with the character `c`, which is no blank, and what
follows it. -/
def first (c : Char) (cs : List Char) : Lexeme × List Char :=
  if c = ',' then (⟨.separator, [c]⟩, cs)
  else if c = '[' then (⟨.openBracket, [c]⟩, cs)
  else if c = ']' then
    let mark := takeMark '!' cs
    (⟨.closeBracket, c :: mark.1⟩, mark.2)
  else if c = '\x7b' ∨ c = '\x7d' then (⟨.brace, [c]⟩, cs)
  else match takeLiteral? (c :: cs) with
    | some (text, rest) => (⟨.literal, text⟩, rest)
    | none =>
      if startsWord c then
        (⟨.word, c :: cs.takeWhile continuesWord⟩, cs.dropWhile continuesWord)
      else (⟨.other, [c]⟩, cs)

theorem length_dropWhile_le (p : Char → Bool) (cs : List Char) :
    (cs.dropWhile p).length ≤ cs.length :=
  (List.dropWhile_sublist p).length_le

theorem length_takeMark_le (mark : Char) (cs : List Char) :
    (takeMark mark cs).2.length ≤ cs.length := by
  unfold takeMark
  split
  · split <;> simp
  · simp

theorem length_takeDigits_lt {cs digits rest : List Char}
    (h : takeDigits? cs = some (digits, rest)) : rest.length < cs.length := by
  have decimalRun {c : Char} {tail : List Char} (hc : c.isDigit = true) :
      ((c :: tail).dropWhile Char.isDigit).length < (c :: tail).length := by
    simpa [List.dropWhile_cons, hc, Nat.lt_succ_iff] using length_dropWhile_le _ tail
  unfold takeDigits? at h
  split at h
  · split at h
    · obtain ⟨-, rfl⟩ := Prod.mk.inj (Option.some.inj h)
      have := length_dropWhile_le Radix.hexadecimal.isDigit (by assumption)
      simp only [List.length_cons]
      omega
    · obtain ⟨-, rfl⟩ := Prod.mk.inj (Option.some.inj h)
      exact decimalRun (by decide)
  · split at h
    · obtain ⟨-, rfl⟩ := Prod.mk.inj (Option.some.inj h)
      exact decimalRun (by assumption)
    · simp at h
  · simp at h

theorem length_takeLiteral_lt {cs text rest : List Char}
    (h : takeLiteral? cs = some (text, rest)) : rest.length < cs.length := by
  unfold takeLiteral? at h
  obtain ⟨⟨digits, rest'⟩, hd, he⟩ := Option.map_eq_some_iff.1 h
  simp only [Prod.mk.injEq] at he
  obtain ⟨-, rfl⟩ := he
  have hash := length_takeMark_le '#' cs
  have sign := length_takeMark_le '-' (takeMark '#' cs).2
  have := length_takeDigits_lt hd
  omega

theorem length_rest_first (c : Char) (cs : List Char) : (first c cs).2.length ≤ cs.length := by
  unfold first
  split
  · simp
  split
  · simp
  split
  · exact length_takeMark_le '!' cs
  split
  · simp
  split
  · have := length_takeLiteral_lt (by assumption)
    simp only [List.length_cons] at this ⊢
    omega
  · split
    · exact length_dropWhile_le _ cs
    · simp

/-- The lexemes of an operand text, in order. -/
def split (cs : List Char) : List Lexeme :=
  match cs with
  | [] => []
  | c :: rest =>
    if Text.isBlank c then split rest
    else (first c rest).1 :: split (first c rest).2
termination_by cs.length
decreasing_by
  · simp
  · have := length_rest_first c rest
    simp only [List.length_cons]
    omega

end Lexeme
end OperandSearch
