import Mathlib.Data.Bool.AllAny
import OperandSearch.Document
import OperandSearch.Proofs.Blank
import OperandSearch.Proofs.Numeral

/-!
# The pieces of a written document

A document written as JSON falls into pieces: signs, texts, numbers, and the space between them.
This file says how each piece may be written, and reads the pieces of a text.

There are more ways to write a piece than the printers use.  Space may stand before and behind any
piece.  In a text every character may be escaped by its number, some have a letter of their own, and
a character beyond the first plane may be escaped as two surrogates.  A reader has to know them all,
so the grammar has them all: `SpellsChar`, `SpellsText`, `Piece` and `Spells`.

Each part of the reader has its own equivalence: what it finds is what the grammar says.  So a text
falls into pieces in one way only, whatever its layout.  For texts this is due to escaping, since a
quote that ends a text is never escaped, and for numbers it is due to the condition that no digit
follows one.
-/

namespace OperandSearch
namespace Document

/-! ## Numbers of characters -/

/-- Four hexadecimal digits that write a number. -/
structure IsUnit (n : ℕ) (digits : List Char) : Prop where
  length_eq : digits.length = 4
  isDigit : ∀ c ∈ digits, Radix.hexadecimal.isDigit c = true
  value_eq : Numeral.value .hexadecimal digits = n

/-- Reads four hexadecimal digits. -/
def readUnit? (cs : List Char) : Option (ℕ × List Char) :=
  if (cs.take 4).length = 4 ∧ (cs.take 4).all Radix.hexadecimal.isDigit = true then
    some (Numeral.value .hexadecimal (cs.take 4), cs.drop 4)
  else none

theorem readUnit?_eq_some_iff {cs rest : List Char} {n : ℕ} :
    readUnit? cs = some (n, rest) ↔ ∃ digits, IsUnit n digits ∧ cs = digits ++ rest := by
  rw [readUnit?]
  constructor
  · intro h
    split at h
    · next hdigits =>
      cases h
      exact ⟨cs.take 4, ⟨hdigits.1, List.all_eq_true.mp hdigits.2, rfl⟩,
        (List.take_append_drop 4 cs).symm⟩
    · cases h
  · rintro ⟨digits, ⟨hlength, hdigits, rfl⟩, rfl⟩
    rw [List.take_left' hlength, List.drop_left' hlength,
      if_pos ⟨hlength, List.all_eq_true.mpr hdigits⟩]

/-- A number that starts a pair. -/
def IsHigh (n : ℕ) : Prop :=
  0xd800 ≤ n ∧ n < 0xdc00

/-- A number that ends a pair. -/
def IsLow (n : ℕ) : Prop :=
  0xdc00 ≤ n ∧ n < 0xe000

instance (n : ℕ) : Decidable (IsHigh n) :=
  inferInstanceAs (Decidable (_ ∧ _))

instance (n : ℕ) : Decidable (IsLow n) :=
  inferInstanceAs (Decidable (_ ∧ _))

/-- The number that a pair stands for. -/
def joined (high low : ℕ) : ℕ :=
  0x10000 + (high - 0xd800) * 0x400 + (low - 0xdc00)

/-- The digits behind a numeric escape that stand for a character.  A character whose number has
more than four digits is written as a pair. -/
inductive SpellsCode : List Char → Char → Prop
  | single {digits : List Char} {c : Char} (h : IsUnit c.toNat digits) : SpellsCode digits c
  | pair {high low : ℕ} {first second : List Char} {c : Char} (hfirst : IsUnit high first)
      (hsecond : IsUnit low second) (hhigh : IsHigh high) (hlow : IsLow low)
      (hc : c.toNat = joined high low) : SpellsCode (first ++ '\\' :: 'u' :: second) c

/-- Reads the digits behind a numeric escape, and those of a second one if they are a pair. -/
def readCode? (cs : List Char) : Option (Char × List Char) := do
  let (n, rest) ← readUnit? cs
  if IsHigh n then
    let (low, rest) ← readUnit? (← rest.dropPrefix? ['\\', 'u'])
    if IsLow low then some (Char.ofNat (joined n low), rest) else none
  else if IsLow n then none
  else some (Char.ofNat n, rest)

theorem IsUnit.lt {n : ℕ} {digits : List Char} (h : IsUnit n digits) : n < 0x10000 := by
  obtain ⟨hlength, hdigits, rfl⟩ := h
  have hlt := Numeral.value_lt hdigits
  rw [hlength] at hlt
  exact hlt

theorem ofNat_eq_iff {n : ℕ} (h : n.isValidChar) {c : Char} : Char.ofNat n = c ↔ c.toNat = n := by
  have hnumber : (Char.ofNat n).toNat = n := by
    rw [Char.ofNat, dif_pos h]
    rfl
  rw [← Char.toNat_inj, hnumber, eq_comm]

theorem isValidChar_joined {high low : ℕ} (hhigh : IsHigh high) (hlow : IsLow low) :
    (joined high low).isValidChar := by
  obtain ⟨hhigh, hhigh'⟩ := hhigh
  obtain ⟨hlow, hlow'⟩ := hlow
  unfold joined Nat.isValidChar
  omega

theorem not_isHigh_toNat (c : Char) : ¬IsHigh c.toNat ∧ ¬IsLow c.toNat := by
  have hvalid : c.val.toNat < 0xd800 ∨ 0xdfff < c.val.toNat ∧ c.val.toNat < 0x110000 := c.valid
  rw [Char.toNat_val] at hvalid
  constructor <;> rintro ⟨hle, hlt⟩ <;> rcases hvalid with h | h <;> omega

/-- **What is read behind a numeric escape.** -/
theorem readCode?_eq_some_iff {cs rest : List Char} {c : Char} :
    readCode? cs = some (c, rest) ↔ ∃ code, SpellsCode code c ∧ cs = code ++ rest := by
  simp only [readCode?, Option.bind_eq_bind, Option.bind_eq_some_iff, Prod.exists,
    readUnit?_eq_some_iff]
  constructor
  · rintro ⟨n, behind, ⟨digits, hunit, rfl⟩, h⟩
    split at h
    · next hhigh =>
      simp only [Option.bind_eq_some_iff, Prod.exists, readUnit?_eq_some_iff,
        List.dropPrefix?_eq_some_iff] at h
      obtain ⟨_, ⟨mark, hbehind, hmark⟩, low, left, ⟨second, hsecond, rfl⟩, h⟩ := h
      rw [beq_iff_eq] at hmark
      subst hmark hbehind
      split at h
      · next hlow =>
        obtain ⟨hc, rfl⟩ := Prod.mk.inj (Option.some_inj.mp h)
        refine ⟨digits ++ '\\' :: 'u' :: second, .pair hunit hsecond hhigh hlow ?_, by simp⟩
        exact (ofNat_eq_iff (isValidChar_joined hhigh hlow)).mp hc
      · cases h
    · next hhigh =>
      split at h
      · cases h
      · next hlow =>
        obtain ⟨hc, rfl⟩ := Prod.mk.inj (Option.some_inj.mp h)
        have hlt := hunit.lt
        have hvalid : n.isValidChar := by
          rw [IsHigh] at hhigh
          rw [IsLow] at hlow
          rw [Nat.isValidChar]
          omega
        rw [← (ofNat_eq_iff hvalid).mp hc] at hunit
        exact ⟨digits, .single hunit, rfl⟩
  · rintro ⟨code, hcode, rfl⟩
    cases hcode with
    | single hunit =>
      obtain ⟨hhigh, hlow⟩ := not_isHigh_toNat c
      refine ⟨c.toNat, rest, ⟨code, hunit, rfl⟩, ?_⟩
      rw [if_neg hhigh, if_neg hlow, Char.ofNat_toNat]
    | @pair high low first second _ hfirst hsecond hhigh hlow hc =>
      refine ⟨high, '\\' :: 'u' :: second ++ rest, ⟨first, hfirst, by simp⟩, ?_⟩
      rw [if_pos hhigh]
      simp only [Option.bind_eq_some_iff, Prod.exists, readUnit?_eq_some_iff,
        List.dropPrefix?_eq_some_iff]
      refine ⟨second ++ rest, ⟨_, rfl, beq_self_eq_true _⟩, low, rest, ⟨second, hsecond, rfl⟩, ?_⟩
      rw [if_pos hlow, (ofNat_eq_iff (isValidChar_joined hhigh hlow)).mpr hc]

/-! ## Characters and texts -/

/-- The escapes of one letter. -/
def shortEscapes : List (Char × Char) :=
  [('"', '"'), ('\\', '\\'), ('/', '/'), ('b', '\x08'), ('f', '\x0c'), ('n', '\n'), ('r', '\r'),
    ('t', '\t')]

/-- How a character can be written inside a text. -/
inductive SpellsChar : List Char → Char → Prop
  | plain {c : Char} (hquote : c ≠ '"') (hescape : c ≠ '\\') (hcontrol : 0x20 ≤ c.toNat) :
      SpellsChar [c] c
  | short {letter c : Char} (h : (letter, c) ∈ shortEscapes) : SpellsChar ['\\', letter] c
  | code {code : List Char} {c : Char} (h : SpellsCode code c) : SpellsChar ('\\' :: 'u' :: code) c

/-- Reads one character inside a text. -/
def readChar? : List Char → Option (Char × List Char)
  | [] => none
  | ['\\'] => none
  | '\\' :: letter :: cs =>
    if letter = 'u' then readCode? cs else (shortEscapes.lookup letter).map fun c => (c, cs)
  | c :: cs => if c = '"' ∨ c.toNat < 0x20 then none else some (c, cs)

theorem lookup_shortEscapes_eq_some_iff {letter c : Char} :
    shortEscapes.lookup letter = some c ↔ (letter, c) ∈ shortEscapes := by
  constructor
  · intro h
    obtain ⟨entry, hentry, rfl⟩ : ∃ entry ∈ shortEscapes, entry = (letter, c) := by
      rw [List.lookup_eq_some_iff] at h
      obtain ⟨front, back, hsplit, -⟩ := h
      exact ⟨_, hsplit ▸ List.mem_append_right _ List.mem_cons_self, rfl⟩
    exact hentry
  · intro h
    have hall : ∀ entry ∈ shortEscapes, shortEscapes.lookup entry.1 = some entry.2 := by decide
    exact hall _ h

theorem readChar?_cons_of_ne {c : Char} (hescape : c ≠ '\\') (cs : List Char) :
    readChar? (c :: cs) = if c = '"' ∨ c.toNat < 0x20 then none else some (c, cs) := by
  rw [readChar?]
  · exact fun h _ => hescape h
  · exact fun _ _ h _ => hescape h

/-- **What is read as a character.** -/
theorem readChar?_eq_some_iff {cs rest : List Char} {c : Char} :
    readChar? cs = some (c, rest) ↔ ∃ piece, SpellsChar piece c ∧ cs = piece ++ rest := by
  constructor
  · intro h
    rw [readChar?.eq_def] at h
    split at h
    · cases h
    · cases h
    · split at h
      · next letter cs hletter =>
        obtain ⟨code, hcode, rfl⟩ := readCode?_eq_some_iff.mp h
        subst hletter
        exact ⟨_, .code hcode, rfl⟩
      · obtain ⟨d, hd, h⟩ := Option.map_eq_some_iff.mp h
        obtain ⟨rfl, rfl⟩ := Prod.mk.inj h
        exact ⟨_, .short (lookup_shortEscapes_eq_some_iff.mp hd), rfl⟩
    · next d cs hlast hletter =>
      split at h
      · cases h
      · next hplain =>
        obtain ⟨rfl, rfl⟩ := Prod.mk.inj (Option.some_inj.mp h)
        rw [not_or, Nat.not_lt] at hplain
        have hescape : d ≠ '\\' := by
          rintro rfl
          cases cs with
          | nil => exact hlast rfl rfl
          | cons letter cs => exact hletter letter cs rfl rfl
        exact ⟨_, .plain hplain.1 hescape hplain.2, rfl⟩
  · rintro ⟨piece, hpiece, rfl⟩
    cases hpiece with
    | plain hquote hescape hcontrol =>
      rw [List.singleton_append, readChar?_cons_of_ne hescape, if_neg (by simp [hquote, hcontrol])]
    | @short letter _ hletter =>
      have hall : ∀ entry ∈ shortEscapes, entry.1 ≠ 'u' := by decide
      rw [List.cons_append, List.singleton_append, readChar?, if_neg (hall _ hletter),
        lookup_shortEscapes_eq_some_iff.mpr hletter]
      rfl
    | code hcode =>
      rw [List.cons_append, List.cons_append, readChar?, if_pos rfl]
      exact readCode?_eq_some_iff.mpr ⟨_, hcode, rfl⟩

/-- A character leaves less to read. -/
theorem length_lt_of_readChar? {cs rest : List Char} {c : Char}
    (h : readChar? cs = some (c, rest)) : rest.length < cs.length := by
  obtain ⟨piece, hpiece, rfl⟩ := readChar?_eq_some_iff.mp h
  have hne : piece ≠ [] := by cases hpiece <;> exact List.cons_ne_nil _ _
  have hpos := List.length_pos_of_ne_nil hne
  rw [List.length_append]
  omega

/-- How the characters between the quotes of a text can be written. -/
inductive SpellsText : List Char → List Char → Prop
  | nil : SpellsText [] []
  | cons {piece body chars : List Char} {c : Char} (h : SpellsChar piece c)
      (hbody : SpellsText body chars) : SpellsText (piece ++ body) (c :: chars)

/-- Reads a text up to the quote that ends it. -/
def readText? (cs : List Char) : Option (List Char × List Char) :=
  if cs.head? = some '"' then some ([], cs.tail)
  else match _h : readChar? cs with
    | some (c, rest) => (readText? rest).map fun (chars, rest) => (c :: chars, rest)
    | none => none
termination_by cs.length
decreasing_by exact length_lt_of_readChar? _h

/-- **What is read as a text.**  It ends with the first quote that is not escaped. -/
theorem readText?_eq_some_iff {cs chars rest : List Char} :
    readText? cs = some (chars, rest) ↔
      ∃ body, SpellsText body chars ∧ cs = body ++ '"' :: rest := by
  constructor
  · intro h
    induction cs using readText?.induct generalizing chars with
    | case1 cs hquote =>
      rw [readText?, if_pos hquote] at h
      cases h
      exact ⟨[], .nil, (List.cons_head?_tail hquote).symm⟩
    | case2 cs hquote c behind hchar ih =>
      rw [readText?, if_neg hquote, hchar] at h
      obtain ⟨read, hread, h⟩ := Option.map_eq_some_iff.mp h
      obtain ⟨rfl, rfl⟩ := Prod.mk.inj h
      obtain ⟨piece, hpiece, rfl⟩ := readChar?_eq_some_iff.mp hchar
      obtain ⟨body, hbody, rfl⟩ := ih hread
      exact ⟨piece ++ body, .cons hpiece hbody, (List.append_assoc ..).symm⟩
    | case3 cs hquote hchar =>
      rw [readText?, if_neg hquote, hchar] at h
      cases h
  · rintro ⟨body, hbody, rfl⟩
    induction hbody with
    | nil =>
      rw [readText?]
      rfl
    | @cons piece body chars c hpiece _ ih =>
      have hchar : readChar? (piece ++ body ++ '"' :: rest) = some (c, body ++ '"' :: rest) :=
        readChar?_eq_some_iff.mpr ⟨piece, hpiece, List.append_assoc ..⟩
      -- no character is written with a quote in front
      have hquote : (piece ++ body ++ '"' :: rest).head? ≠ some '"' := by
        intro hquote
        obtain ⟨behind, hbehind⟩ := List.head?_eq_some_iff.mp hquote
        rw [hbehind, readChar?_cons_of_ne (by decide)] at hchar
        cases hchar
      rw [readText?, if_neg hquote, hchar]
      exact Option.map_eq_some_iff.mpr ⟨_, ih, rfl⟩

/-! ## Pieces -/

/-- A piece of a document that is written. -/
inductive Atom where
  /-- A bracket, a brace, a comma or a colon. -/
  | sign (c : Char)
  | text (s : String)
  | number (n : ℕ)
  deriving DecidableEq, Repr

/-- What may stand between pieces. -/
def spaces : List Char :=
  [' ', '\t', '\n', '\r']

/-- The signs of a document. -/
def signs : List Char :=
  ['[', ']', '\x7b', '\x7d', ',', ':']

/-- Digits as they write a number: no zero in front of others. -/
def IsNumeral (digits : List Char) : Prop :=
  digits ≠ [] ∧ (∀ c ∈ digits, Radix.decimal.isDigit c = true) ∧
    (digits.head? = some '0' → digits = ['0'])

instance (digits : List Char) : Decidable (IsNumeral digits) :=
  decidable_of_iff (digits ≠ [] ∧ digits.all Radix.decimal.isDigit = true ∧
    (digits.head? = some '0' → digits = ['0'])) (by rw [IsNumeral, List.all_eq_true])

/-- How a piece can be written.  A space is no piece of a document. -/
inductive Piece : List Char → List Atom → Prop
  | space {c : Char} (h : c ∈ spaces) : Piece [c] []
  | sign {c : Char} (h : c ∈ signs) : Piece [c] [.sign c]
  | text {body chars : List Char} (h : SpellsText body chars) :
      Piece ('"' :: body ++ ['"']) [.text (String.ofList chars)]
  | number {digits : List Char} (h : IsNumeral digits) :
      Piece digits [.number (Numeral.value .decimal digits)]

/-- A number ends before what is no digit. -/
def EndsBefore (front : List Atom) (rest : List Char) : Prop :=
  ∀ n, front = [.number n] → ∀ c ∈ rest.head?, Radix.decimal.isDigit c = false

/-- Only a number has to end. -/
theorem endsBefore_of_forall_ne {front : List Atom} (h : ∀ n, front ≠ [.number n])
    (rest : List Char) : EndsBefore front rest :=
  fun n hn => absurd hn (h n)

/-- How some pieces can be written, one behind the other. -/
inductive Spells : List Char → List Atom → Prop
  | nil : Spells [] []
  | cons {piece rest : List Char} {front atoms : List Atom} (h : Piece piece front)
      (hend : EndsBefore front rest) (hrest : Spells rest atoms) :
      Spells (piece ++ rest) (front ++ atoms)

/-- Reads a number, up to what is no digit. -/
def readNumber? (cs : List Char) : Option (List Atom × List Char) :=
  if IsNumeral (cs.takeWhile Radix.decimal.isDigit) then
    some ([.number (Numeral.value .decimal (cs.takeWhile Radix.decimal.isDigit))],
      cs.dropWhile Radix.decimal.isDigit)
  else none

/-- Reads one piece. -/
def readPiece? : List Char → Option (List Atom × List Char)
  | [] => none
  | c :: cs =>
    if c ∈ spaces then some ([], cs)
    else if c ∈ signs then some ([.sign c], cs)
    else if c = '"' then
      (readText? cs).map fun (chars, rest) => ([.text (String.ofList chars)], rest)
    else readNumber? (c :: cs)

theorem readNumber?_eq_some_iff {cs rest : List Char} {front : List Atom} :
    readNumber? cs = some (front, rest) ↔
      ∃ digits, IsNumeral digits ∧ front = [.number (Numeral.value .decimal digits)] ∧
        (∀ c ∈ rest.head?, Radix.decimal.isDigit c = false) ∧ cs = digits ++ rest := by
  rw [readNumber?]
  constructor
  · intro h
    split at h
    · next hdigits =>
      obtain ⟨rfl, rfl⟩ := Prod.mk.inj (Option.some_inj.mp h)
      exact ⟨_, hdigits, rfl, Text.head?_dropWhile_eq_false, List.takeWhile_append_dropWhile.symm⟩
    · cases h
  · rintro ⟨digits, hdigits, rfl, hend, rfl⟩
    rw [Text.takeWhile_append_of_head? hdigits.2.1 hend,
      Text.dropWhile_append_of_head? hdigits.2.1 hend, if_pos hdigits]

/-- **What is read as a piece.** -/
theorem readPiece?_eq_some_iff {cs rest : List Char} {front : List Atom} :
    readPiece? cs = some (front, rest) ↔
      ∃ piece, Piece piece front ∧ EndsBefore front rest ∧ cs = piece ++ rest := by
  constructor
  · intro h
    rw [readPiece?.eq_def] at h
    split at h
    · cases h
    · next c cs =>
      split at h
      · next hspace =>
        obtain ⟨rfl, rfl⟩ := Prod.mk.inj (Option.some_inj.mp h)
        exact ⟨[c], .space hspace, endsBefore_of_forall_ne (by simp) _, rfl⟩
      split at h
      · next hsign =>
        obtain ⟨rfl, rfl⟩ := Prod.mk.inj (Option.some_inj.mp h)
        exact ⟨[c], .sign hsign, endsBefore_of_forall_ne (by simp) _, rfl⟩
      split at h
      · next hquote =>
        obtain ⟨read, hread, h⟩ := Option.map_eq_some_iff.mp h
        obtain ⟨rfl, rfl⟩ := Prod.mk.inj h
        obtain ⟨body, hbody, rfl⟩ := readText?_eq_some_iff.mp hread
        refine ⟨_, .text hbody, endsBefore_of_forall_ne (by simp) _, ?_⟩
        rw [hquote]
        simp
      · obtain ⟨digits, hdigits, rfl, hend, hcs⟩ := readNumber?_eq_some_iff.mp h
        exact ⟨digits, .number hdigits, fun n _ => hend, hcs⟩
  · rintro ⟨piece, hpiece, hend, rfl⟩
    have hsigns : ∀ c ∈ signs, c ∉ spaces := List.all_iff_forall_prop.mp (by decide)
    cases hpiece with
    | space hspace => exact if_pos hspace
    | sign hsign => exact (if_neg (hsigns _ hsign)).trans (if_pos hsign)
    | @text body chars hbody =>
      have hread : readText? (body ++ '"' :: rest) = some (chars, rest) :=
        readText?_eq_some_iff.mpr ⟨body, hbody, rfl⟩
      rw [List.cons_append, List.cons_append, List.append_assoc, List.singleton_append, readPiece?,
        hread]
      rfl
    | @number digits hnumeral =>
      have hnodigits : ∀ c ∈ '"' :: (spaces ++ signs), ¬Radix.decimal.isDigit c = true :=
        List.all_iff_forall_prop.mp (by decide)
      obtain ⟨c, digits, rfl⟩ := List.exists_cons_of_ne_nil hnumeral.1
      have hc := hnumeral.2.1 c List.mem_cons_self
      have hspace : c ∉ spaces := fun h =>
        hnodigits c (List.mem_cons_of_mem _ (List.mem_append_left _ h)) hc
      have hsign : c ∉ signs := fun h =>
        hnodigits c (List.mem_cons_of_mem _ (List.mem_append_right _ h)) hc
      have hquote : c ≠ '"' := fun h => hnodigits c (h ▸ List.mem_cons_self) hc
      rw [List.cons_append, readPiece?, if_neg hspace, if_neg hsign, if_neg hquote]
      exact readNumber?_eq_some_iff.mpr ⟨_, hnumeral, rfl, hend _ rfl, rfl⟩

theorem Piece.ne_nil {piece : List Char} {front : List Atom} (h : Piece piece front) :
    piece ≠ [] := by
  cases h with
  | number h => exact h.1
  | _ => exact List.cons_ne_nil _ _

theorem length_lt_of_readPiece? {cs rest : List Char} {front : List Atom}
    (h : readPiece? cs = some (front, rest)) : rest.length < cs.length := by
  obtain ⟨piece, hpiece, -, rfl⟩ := readPiece?_eq_some_iff.mp h
  have hpos := List.length_pos_of_ne_nil hpiece.ne_nil
  rw [List.length_append]
  omega

/-- Reads the pieces of a text. -/
def lex? (cs : List Char) : Option (List Atom) :=
  if cs = [] then some []
  else match _h : readPiece? cs with
    | some (front, rest) => (lex? rest).map (front ++ ·)
    | none => none
termination_by cs.length
decreasing_by exact length_lt_of_readPiece? _h

/-- **What is read as pieces.**  A text falls into pieces in one way at most. -/
theorem lex?_eq_some_iff {cs : List Char} {atoms : List Atom} :
    lex? cs = some atoms ↔ Spells cs atoms := by
  constructor
  · intro h
    induction cs using lex?.induct generalizing atoms with
    | case1 =>
      rw [lex?, if_pos rfl] at h
      cases h
      exact .nil
    | case2 cs hcs front rest hread ih =>
      rw [lex?, if_neg hcs, hread] at h
      obtain ⟨atoms, hatoms, rfl⟩ := Option.map_eq_some_iff.mp h
      obtain ⟨piece, hpiece, hend, rfl⟩ := readPiece?_eq_some_iff.mp hread
      exact .cons hpiece hend (ih hatoms)
    | case3 cs hcs hread =>
      rw [lex?, if_neg hcs, hread] at h
      cases h
  · intro h
    induction h with
    | nil => rw [lex?, if_pos rfl]
    | @cons piece rest front atoms hpiece hend _ ih =>
      have hread := readPiece?_eq_some_iff.mpr ⟨piece, hpiece, hend, rfl⟩
      have hne : piece ++ rest ≠ [] := List.append_ne_nil_of_left_ne_nil hpiece.ne_nil rest
      rw [lex?, if_neg hne, hread]
      exact Option.map_eq_some_iff.mpr ⟨_, ih, rfl⟩

end Document
end OperandSearch
