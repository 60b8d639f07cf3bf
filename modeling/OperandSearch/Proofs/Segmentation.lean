import OperandSearch.Operand.Lexeme
import OperandSearch.Proofs.Immediate

/-!
# How operand text falls into lexemes

`Lexeme.split` tries one shape after the other and takes what fits first.  This file says what
comes out without that order.  A text falls into blanks and lexemes; a lexeme has the text of
its shape (`HasShape`), and it ends where it has to (`EndsBefore`): no word in front of a
character that could go on in it, no literal in front of one of its digits, no zero in front of
what would make it hexadecimal, no closing bracket in front of its exclamation mark, and no
lone `#` or minus sign in front of what would make it a literal.

`split_eq_iff` says that these conditions hold of the lexemes of a text and of no other list.
Both directions are about the first lexeme alone (`first_eq_iff`), and there the only shape with
some depth to it is the literal: what is taken for one is what the conditions say of it, and
nothing is taken exactly if no digit stands where one has to (`takeLiteral?_eq_some_iff`,
`takeLiteral?_eq_none_iff`).
-/

namespace OperandSearch
namespace Lexeme

open Immediate (IsMark)

/-! ## The conditions -/

/-- The text of a numeral: a mark, and digits of its radix. -/
inductive IsNumeral : Radix → List Char → List Char → Prop
  | intro {radix : Radix} {mark digits : List Char} (hmark : IsMark radix mark)
      (hne : digits ≠ []) (hdigits : ∀ c ∈ digits, radix.isDigit c = true) :
      IsNumeral radix digits (mark ++ digits)

/-- The text of a literal: an optional `#`, an optional minus sign, and a numeral. -/
inductive IsLiteral : Radix → List Char → List Char → Prop
  | intro (hash negative : Bool) {radix : Radix} {digits numeral : List Char}
      (h : IsNumeral radix digits numeral) :
      IsLiteral radix digits
        ((if hash then ['#'] else []) ++ (if negative then ['-'] else []) ++ numeral)

/-- The characters that have a shape of their own. -/
def punctuation : List Char :=
  [',', '[', ']', '\x7b', '\x7d']

/-- The texts of a shape. -/
inductive HasShape : Shape → List Char → Prop
  | separator : HasShape .separator [',']
  | openBracket : HasShape .openBracket ['[']
  | closeBracket : HasShape .closeBracket [']']
  | markedBracket : HasShape .closeBracket [']', '!']
  | leftBrace : HasShape .brace ['\x7b']
  | rightBrace : HasShape .brace ['\x7d']
  | literal {radix : Radix} {digits text : List Char} (h : IsLiteral radix digits text) :
      HasShape .literal text
  | word {c : Char} {tail : List Char} (hc : startsWord c = true)
      (htail : ∀ d ∈ tail, continuesWord d = true) : HasShape .word (c :: tail)
  | other {c : Char} (hblank : Text.isBlank c = false)
      (hpunctuation : c ∉ punctuation) (hdigit : c.isDigit = false)
      (hword : startsWord c = false) : HasShape .other [c]

/-- The digits of a literal end in front of a text: it starts with no digit of the radix, and a
decimal zero alone does not stand in front of what would make it hexadecimal. -/
structure DigitsEnd (radix : Radix) (digits rest : List Char) : Prop where
  digit : ∀ d ∈ rest.head?, radix.isDigit d = false
  mark : radix = .decimal → digits = ['0'] → ∀ x d tail, rest = x :: d :: tail →
    x = 'x' ∨ x = 'X' → Radix.hexadecimal.isDigit d = false

/-- A text starts with no decimal digit. -/
def NoDigit (cs : List Char) : Prop :=
  ∀ d ∈ cs.head?, d.isDigit = false

/-- A lexeme can end in front of a text. -/
def EndsBefore (l : Lexeme) (rest : List Char) : Prop :=
  match l.shape with
  | .separator | .openBracket | .brace => True
  | .closeBracket => l.text = [']'] → '!' ∉ rest.head?
  | .literal => ∃ radix digits, IsLiteral radix digits l.text ∧ DigitsEnd radix digits rest
  | .word => ∀ d ∈ rest.head?, continuesWord d = false
  | .other => (l.text = ['-'] → NoDigit rest) ∧
      (l.text = ['#'] → NoDigit rest ∧ ∀ tail, rest = '-' :: tail → NoDigit tail)

/-- A text starts with a lexeme, and goes on behind it. -/
structure Starts (cs : List Char) (l : Lexeme) (rest : List Char) : Prop where
  text : cs = l.text ++ rest
  shape : HasShape l.shape l.text
  ends : EndsBefore l rest

/-- A text falls into blanks and lexemes.  The lexemes are those of the list, in its order; they
have no blanks in them, and each ends where it has to. -/
inductive Segments : List Char → List Lexeme → Prop
  | nil : Segments [] []
  | blank {c : Char} {cs : List Char} {lexemes : List Lexeme} (hc : Text.isBlank c = true)
      (h : Segments cs lexemes) : Segments (c :: cs) lexemes
  | lexeme {cs rest : List Char} {l : Lexeme} {lexemes : List Lexeme} (hstarts : Starts cs l rest)
      (hblank : ∀ c ∈ l.text, Text.isBlank c = false) (h : Segments rest lexemes) :
      Segments cs (l :: lexemes)

/-! ## Characters -/

theorem isDigit_iff_toNat {c : Char} : c.isDigit = true ↔ 48 ≤ c.toNat ∧ c.toNat ≤ 57 := by
  simp [Char.isDigit, UInt32.le_iff_toNat_le, ← Char.toNat_val]

theorem startsWord_iff_toNat {c : Char} : startsWord c = true ↔
    65 ≤ c.toNat ∧ c.toNat ≤ 90 ∨ 97 ≤ c.toNat ∧ c.toNat ≤ 122 ∨
      c.toNat = 95 ∨ c.toNat = 46 ∨ c.toNat = 36 := by
  have eq_iff (d : Char) : c = d ↔ c.toNat = d.toNat := Char.toNat_inj.symm
  have halpha : c.isAlpha = (decide (c.val ≥ 'A'.val ∧ c.val ≤ 'Z'.val) ||
      (decide (c.val ≥ 'a'.val) && decide (c.val ≤ 'z'.val))) := rfl
  rw [startsWord, halpha]
  simp [UInt32.le_iff_toNat_le, ← Char.toNat_val, eq_iff, or_assoc]

theorem continuesWord_of_startsWord {c : Char} (h : startsWord c = true) :
    continuesWord c = true := by
  rw [continuesWord, h, Bool.true_or]

theorem isDigit_of_startsWord {c : Char} (h : startsWord c = true) : c.isDigit = false := by
  rw [startsWord_iff_toNat] at h
  rw [Bool.eq_false_iff, ne_eq, isDigit_iff_toNat]
  omega

theorem isBlank_of_continuesWord {c : Char} (h : continuesWord c = true) :
    Text.isBlank c = false := by
  rw [continuesWord, Bool.or_eq_true, startsWord_iff_toNat, isDigit_iff_toNat] at h
  simp only [Text.isBlank, Text.blankRuns, List.any_cons, List.any_nil, Bool.or_false,
    Bool.or_eq_false_iff, Bool.and_eq_false_iff, decide_eq_false_iff_not]
  omega

/-! ## Marks -/

theorem exists_takeMark (mark : Char) (cs : List Char) :
    ∃ taken : Bool, (takeMark mark cs).1 = if taken then [mark] else [] := by
  rw [takeMark.eq_def]
  split
  · split
    · subst_vars
      exact ⟨true, rfl⟩
    · exact ⟨false, rfl⟩
  · exact ⟨false, rfl⟩

theorem takeMark_fst_append_snd (mark : Char) (cs : List Char) :
    (takeMark mark cs).1 ++ (takeMark mark cs).2 = cs := by
  rw [takeMark.eq_def]
  split
  · split <;> rfl
  · rfl

theorem takeMark_cons_of_ne {mark c : Char} (cs : List Char) (h : c ≠ mark) :
    takeMark mark (c :: cs) = ([], c :: cs) := by
  rw [takeMark, if_neg h]

theorem takeMark_of_head? {mark : Char} {cs : List Char} (h : mark ∉ cs.head?) :
    takeMark mark cs = ([], cs) := by
  cases cs with
  | nil => rfl
  | cons c cs => exact takeMark_cons_of_ne cs fun e => h (by simp [e])

theorem takeMark_append {mark : Char} {taken : Bool} {rest : List Char}
    (h : taken = false → mark ∉ rest.head?) :
    takeMark mark ((if taken then [mark] else []) ++ rest) =
      (if taken then [mark] else [], rest) := by
  cases taken with
  | true => simp [takeMark]
  | false => exact takeMark_of_head? (h rfl)

/-! ## Numerals -/

theorem IsNumeral.exists_cons {radix : Radix} {digits text : List Char}
    (h : IsNumeral radix digits text) : ∃ c tail, text = c :: tail ∧ c.isDigit = true := by
  obtain ⟨hmark, hne, hdigits⟩ := h
  cases hmark with
  | lower => exact ⟨'0', _, rfl, by decide⟩
  | upper => exact ⟨'0', _, rfl, by decide⟩
  | absent =>
    obtain ⟨c, tail, rfl⟩ := List.exists_cons_of_ne_nil hne
    refine ⟨c, tail, rfl, ?_⟩
    rw [← Radix.isDigit_decimal]
    exact hdigits c List.mem_cons_self

/-- A run of decimal digits from the start of a text is a numeral that ends there, if the text
does not start with what is taken for a hexadecimal mark and a digit. -/
theorem decimalRun_ends {c : Char} {tail : List Char} (hc : c.isDigit = true)
    (hplain : ∀ x d tail', c :: tail = '0' :: x :: d :: tail' → x = 'x' ∨ x = 'X' →
      Radix.hexadecimal.isDigit d = false) :
    ∃ radix digits, IsNumeral radix digits ((c :: tail).takeWhile Char.isDigit) ∧
      DigitsEnd radix digits ((c :: tail).dropWhile Char.isDigit) := by
  refine ⟨.decimal, (c :: tail).takeWhile Char.isDigit, .intro .absent ?_ ?_, ?_, ?_⟩
  · rw [List.takeWhile_cons_of_pos hc]
    exact List.cons_ne_nil _ _
  · intro d hd
    rw [Radix.isDigit_decimal]
    exact List.mem_takeWhile_imp hd
  · intro d hd
    rw [Radix.isDigit_decimal]
    exact Text.head?_dropWhile_eq_false d hd
  · intro _ hzero x d tail' hrest hx
    have hsplit := List.takeWhile_append_dropWhile (p := Char.isDigit) (l := c :: tail)
    rw [hzero, hrest] at hsplit
    exact hplain x d tail' hsplit.symm hx

theorem of_takeDigits?_eq_some {cs text rest : List Char}
    (h : takeDigits? cs = some (text, rest)) : cs = text ++ rest ∧
      ∃ radix digits, IsNumeral radix digits text ∧ DigitsEnd radix digits rest := by
  rw [takeDigits?.eq_def] at h
  split at h
  · next x d tail =>
    split at h
    · next hx =>
      obtain ⟨rfl, rfl⟩ := Prod.mk.inj (Option.some.inj h)
      rw [Bool.and_eq_true, Bool.or_eq_true, beq_iff_eq, beq_iff_eq] at hx
      have hmark : IsMark .hexadecimal ['0', x] := by
        rcases hx.1 with rfl | rfl
        · exact .lower
        · exact .upper
      have hdigits : ∀ c ∈ d :: tail.takeWhile Radix.hexadecimal.isDigit,
          Radix.hexadecimal.isDigit c = true := by
        rw [List.forall_mem_cons]
        exact ⟨hx.2, fun c hc => List.mem_takeWhile_imp hc⟩
      exact ⟨by simp, .hexadecimal, _, .intro hmark (List.cons_ne_nil _ _) hdigits,
        Text.head?_dropWhile_eq_false, nofun⟩
    · next hx =>
      obtain ⟨rfl, rfl⟩ := Prod.mk.inj (Option.some.inj h)
      refine ⟨List.takeWhile_append_dropWhile.symm, decimalRun_ends (by decide) ?_⟩
      intro x' d' tail' hcs hx'
      cases hcs
      rcases hx' with rfl | rfl <;> simpa using hx
  · next c tail hplain =>
    split at h
    · next hc =>
      obtain ⟨rfl, rfl⟩ := Prod.mk.inj (Option.some.inj h)
      refine ⟨List.takeWhile_append_dropWhile.symm, decimalRun_ends hc ?_⟩
      intro x d tail' hcs _
      cases hcs
      exact absurd rfl (hplain x d tail' rfl)
    · cases h
  · cases h

theorem takeDigits?_marked {x d : Char} {tail rest : List Char} (hx : x = 'x' ∨ x = 'X')
    (hdigits : ∀ e ∈ d :: tail, Radix.hexadecimal.isDigit e = true)
    (hrest : ∀ e ∈ rest.head?, Radix.hexadecimal.isDigit e = false) :
    takeDigits? ('0' :: x :: d :: tail ++ rest) = some ('0' :: x :: d :: tail, rest) := by
  obtain ⟨hd, htail⟩ := List.forall_mem_cons.mp hdigits
  have htake := Text.takeWhile_append_of_head? htail hrest
  have hdrop := Text.dropWhile_append_of_head? htail hrest
  simp [takeDigits?, hx, hd, htake, hdrop]

theorem takeDigits?_plain {c : Char} {tail rest : List Char}
    (hdigits : ∀ e ∈ c :: tail, e.isDigit = true) (hrest : NoDigit rest)
    (hplain : c = '0' → tail = [] → ∀ x d tail', rest = x :: d :: tail' →
      x = 'x' ∨ x = 'X' → Radix.hexadecimal.isDigit d = false) :
    takeDigits? (c :: tail ++ rest) = some (c :: tail, rest) := by
  obtain ⟨hc, htail⟩ := List.forall_mem_cons.mp hdigits
  have htake := Text.takeWhile_append_of_head? hdigits hrest
  have hdrop := Text.dropWhile_append_of_head? hdigits hrest
  rw [takeDigits?.eq_def]
  split
  · next x d tail' hcs =>
    -- a mark behind the zero would have to come out of the digits or out of the rest
    have hunmarked : ((x == 'x' || x == 'X') && Radix.hexadecimal.isDigit d) = false := by
      rw [Bool.and_eq_false_imp, Bool.or_eq_true, beq_iff_eq, beq_iff_eq]
      intro hx
      cases tail with
      | nil =>
        cases hcs
        exact hplain rfl rfl x d tail' rfl hx
      | cons y tail =>
        obtain rfl : y = x := (List.cons.inj (List.cons.inj hcs).2).1
        have hy : y.isDigit = true := htail y List.mem_cons_self
        rcases hx with rfl | rfl <;> exact absurd hy (by decide)
    rw [hunmarked, htake, hdrop]
    rfl
  · next c' tail' _ hcs =>
    obtain ⟨rfl, -⟩ := List.cons.inj hcs
    rw [if_pos hc, htake, hdrop]
  · next hcs => cases hcs

theorem takeDigits?_append {radix : Radix} {digits text rest : List Char}
    (h : IsNumeral radix digits text) (hends : DigitsEnd radix digits rest) :
    takeDigits? (text ++ rest) = some (text, rest) := by
  obtain ⟨hmark, hne, hdigits⟩ := h
  obtain ⟨c, tail, rfl⟩ := List.exists_cons_of_ne_nil hne
  cases hmark with
  | lower => exact takeDigits?_marked (.inl rfl) hdigits hends.digit
  | upper => exact takeDigits?_marked (.inr rfl) hdigits hends.digit
  | absent =>
    have hdigit := hends.digit
    simp only [Radix.isDigit_decimal] at hdigits hdigit
    refine takeDigits?_plain hdigits hdigit ?_
    rintro rfl rfl
    exact hends.mark rfl rfl

theorem takeDigits?_eq_none_iff {cs : List Char} : takeDigits? cs = none ↔ NoDigit cs := by
  rw [takeDigits?.eq_def, NoDigit]
  split
  · split <;> simp
  · next c tail _ => by_cases hc : c.isDigit = true <;> simp [hc]
  · simp

/-! ## Literals -/

theorem IsLiteral.exists_cons {radix : Radix} {digits text : List Char}
    (h : IsLiteral radix digits text) :
    ∃ c tail, text = c :: tail ∧ (c.isDigit = true ∨ (c = '#' ∨ c = '-') ∧ tail ≠ []) := by
  obtain ⟨hash, negative, hnumeral⟩ := h
  obtain ⟨c, tail, rfl, hc⟩ := hnumeral.exists_cons
  cases hash with
  | true =>
    refine ⟨'#', _, rfl, .inr ⟨.inl rfl, ?_⟩⟩
    cases negative <;> exact List.cons_ne_nil _ _
  | false =>
    cases negative with
    | true => exact ⟨'-', _, rfl, .inr ⟨.inr rfl, List.cons_ne_nil _ _⟩⟩
    | false => exact ⟨c, tail, rfl, .inl hc⟩

/-- The text of a literal is taken again in front of a text that its digits can end before. -/
theorem takeLiteral?_append {radix : Radix} {digits text rest : List Char}
    (h : IsLiteral radix digits text) (hends : DigitsEnd radix digits rest) :
    takeLiteral? (text ++ rest) = some (text, rest) := by
  obtain @⟨hash, negative, radix, digits, numeral, hnumeral⟩ := h
  have htaken := takeDigits?_append hnumeral hends
  obtain ⟨c, tail, rfl, hc⟩ := hnumeral.exists_cons
  have hminus : negative = false → '-' ∉ (c :: tail ++ rest).head? := by
    rintro - hhead
    obtain rfl : c = '-' := Option.some.inj hhead
    exact absurd hc (by decide)
  have hhash : hash = false →
      '#' ∉ ((if negative then ['-'] else []) ++ (c :: tail ++ rest)).head? := by
    rintro - hhead
    cases negative with
    | true => exact absurd (Option.some.inj hhead) (by decide)
    | false =>
      obtain rfl : c = '#' := Option.some.inj hhead
      exact absurd hc (by decide)
  rw [List.append_assoc, List.append_assoc, takeLiteral?]
  simp only [takeMark_append hhash, takeMark_append hminus, htaken, Option.map_some]

/-- **What is taken for a literal.**  It is the text of a literal, and its digits end there. -/
theorem takeLiteral?_eq_some_iff {cs text rest : List Char} :
    takeLiteral? cs = some (text, rest) ↔ cs = text ++ rest ∧
      ∃ radix digits, IsLiteral radix digits text ∧ DigitsEnd radix digits rest := by
  constructor
  · intro h
    rw [takeLiteral?] at h
    obtain ⟨⟨numeral, rest'⟩, htaken, he⟩ := Option.map_eq_some_iff.mp h
    obtain ⟨rfl, rfl⟩ := Prod.mk.inj he
    obtain ⟨hash, hhash⟩ := exists_takeMark '#' cs
    obtain ⟨negative, hnegative⟩ := exists_takeMark '-' (takeMark '#' cs).2
    obtain ⟨hsplit, radix, digits, hnumeral, hends⟩ := of_takeDigits?_eq_some htaken
    refine ⟨?_, radix, digits, ?_, hends⟩
    · rw [List.append_assoc, ← hsplit, List.append_assoc, takeMark_fst_append_snd,
        takeMark_fst_append_snd]
    · rw [hhash, hnegative]
      exact .intro hash negative hnumeral
  · rintro ⟨rfl, radix, digits, hliteral, hends⟩
    exact takeLiteral?_append hliteral hends

theorem takeLiteral?_eq_none_iff {cs : List Char} :
    takeLiteral? cs = none ↔ NoDigit (takeMark '-' (takeMark '#' cs).2).2 := by
  rw [takeLiteral?, Option.map_eq_none_iff, takeDigits?_eq_none_iff]

theorem isDigit_eq_false_of_takeLiteral? {c : Char} {cs : List Char}
    (h : takeLiteral? (c :: cs) = none) : c.isDigit = false := by
  by_cases hminus : c = '-'
  · subst hminus
    decide
  by_cases hhash : c = '#'
  · subst hhash
    decide
  rw [takeLiteral?_eq_none_iff, takeMark_cons_of_ne cs hhash, takeMark_cons_of_ne cs hminus] at h
  exact h c rfl

theorem takeLiteral?_cons_of_ne {c : Char} {cs : List Char} (hhash : c ≠ '#') (hminus : c ≠ '-')
    (hc : c.isDigit = false) : takeLiteral? (c :: cs) = none := by
  rw [takeLiteral?_eq_none_iff, takeMark_cons_of_ne cs hhash, takeMark_cons_of_ne cs hminus]
  simpa [NoDigit] using hc

theorem takeLiteral?_minus_eq_none_iff {cs : List Char} :
    takeLiteral? ('-' :: cs) = none ↔ NoDigit cs := by
  rw [takeLiteral?_eq_none_iff, takeMark_cons_of_ne cs (by decide)]
  rfl

/-- No literal starts with `#` exactly if no digit stands behind it, with or without a minus sign
between. -/
theorem takeLiteral?_hash_eq_none_iff {cs : List Char} : takeLiteral? ('#' :: cs) = none ↔
    NoDigit cs ∧ ∀ tail, cs = '-' :: tail → NoDigit tail := by
  have hmark : (takeMark '#' ('#' :: cs)).2 = cs := rfl
  rw [takeLiteral?_eq_none_iff, hmark]
  cases cs with
  | nil => simp [NoDigit, takeMark]
  | cons c tail =>
    by_cases hc : c = '-'
    · subst hc
      have hminus : NoDigit ('-' :: tail) := by simp [NoDigit]
      simp [takeMark, hminus]
    · rw [takeMark_cons_of_ne tail hc]
      simp [hc]

/-! ## The first lexeme -/

theorem starts_closeBracket (cs : List Char) :
    Starts (']' :: cs) ⟨.closeBracket, ']' :: (takeMark '!' cs).1⟩ (takeMark '!' cs).2 := by
  rw [takeMark.eq_def]
  split
  · split
    · subst_vars
      exact ⟨rfl, .markedBracket, nofun⟩
    · next hne => exact ⟨rfl, .closeBracket, fun _ => by simpa using hne⟩
  · exact ⟨rfl, .closeBracket, fun _ => by simp⟩

/-- What is taken at the start of a text meets the conditions. -/
theorem starts_first {c : Char} (cs : List Char) (hblank : Text.isBlank c = false) :
    Starts (c :: cs) (first c cs).1 (first c cs).2 := by
  unfold first
  split
  · next hc =>
    subst hc
    exact ⟨rfl, .separator, trivial⟩
  split
  · next hc =>
    subst hc
    exact ⟨rfl, .openBracket, trivial⟩
  split
  · next hc =>
    subst hc
    exact starts_closeBracket cs
  split
  · next hc =>
    rcases hc with rfl | rfl
    · exact ⟨rfl, .leftBrace, trivial⟩
    · exact ⟨rfl, .rightBrace, trivial⟩
  next hcomma hopen hclose hbrace =>
  split
  · next hliteral =>
    obtain ⟨htext, radix, digits, hshape, hends⟩ := takeLiteral?_eq_some_iff.mp hliteral
    exact ⟨htext, .literal hshape, radix, digits, hshape, hends⟩
  · next hliteral =>
    split
    · next hword =>
      refine ⟨?_, .word hword fun d hd => List.mem_takeWhile_imp hd,
        fun d hd => Text.head?_dropWhile_eq_false d hd⟩
      rw [List.cons_append, List.takeWhile_append_dropWhile]
    · next hword =>
      have hdigit : c.isDigit = false :=
        isDigit_eq_false_of_takeLiteral? hliteral
      refine ⟨rfl, .other hblank ?_ hdigit (Bool.eq_false_iff.mpr hword), ?_, ?_⟩
      · simp [punctuation, hcomma, hopen, hclose, not_or.mp hbrace]
      · intro hc
        obtain rfl : c = '-' := (List.cons.inj hc).1
        exact takeLiteral?_minus_eq_none_iff.mp hliteral
      · intro hc
        obtain rfl : c = '#' := (List.cons.inj hc).1
        exact takeLiteral?_hash_eq_none_iff.mp hliteral

/-- What is taken at a character that has no shape of its own: a literal if there is one, and else
a word or the character alone. -/
theorem first_of_notMem_punctuation {c : Char} (cs : List Char) (hc : c ∉ punctuation) :
    first c cs =
      match takeLiteral? (c :: cs) with
      | some (text, rest) => (⟨.literal, text⟩, rest)
      | none =>
        if startsWord c then
          (⟨.word, c :: cs.takeWhile continuesWord⟩, cs.dropWhile continuesWord)
        else (⟨.other, [c]⟩, cs) := by
  simp only [punctuation, List.mem_cons, List.not_mem_nil, or_false, not_or] at hc
  obtain ⟨hcomma, hopen, hclose, hleft, hright⟩ := hc
  have hbrace : ¬(c = '\x7b' ∨ c = '\x7d') := not_or.mpr ⟨hleft, hright⟩
  exact (if_neg hcomma).trans ((if_neg hopen).trans ((if_neg hclose).trans (if_neg hbrace)))

/-- The characters that have a shape of their own go on in no word, and start no literal. -/
theorem of_mem_punctuation {c : Char} (h : c ∈ punctuation) :
    continuesWord c = false ∧ c.isDigit = false ∧ c ≠ '#' ∧ c ≠ '-' := by
  simp only [punctuation, List.mem_cons, List.not_mem_nil, or_false] at h
  rcases h with rfl | rfl | rfl | rfl | rfl <;> decide

theorem takeLiteral?_eq_none_of_startsWord {c : Char} (cs : List Char) (hc : startsWord c = true) :
    takeLiteral? (c :: cs) = none := by
  refine takeLiteral?_cons_of_ne ?_ ?_ (isDigit_of_startsWord hc)
  · rintro rfl
    exact absurd hc (by decide)
  · rintro rfl
    exact absurd hc (by decide)

theorem IsLiteral.notMem_punctuation {radix : Radix} {digits tail : List Char} {c : Char}
    (h : IsLiteral radix digits (c :: tail)) : c ∉ punctuation := by
  intro hmem
  obtain ⟨-, hdigit, hhash, hminus⟩ := of_mem_punctuation hmem
  obtain ⟨d, tail', hcons, hd⟩ := h.exists_cons
  obtain ⟨rfl, -⟩ := List.cons.inj hcons
  rcases hd with hd | ⟨hd | hd, -⟩
  · rw [hdigit] at hd
    cases hd
  · exact hhash hd
  · exact hminus hd

/-- What meets the conditions at the start of a text is what is taken there. -/
theorem first_eq_of_starts {c : Char} {cs rest : List Char} {l : Lexeme}
    (h : Starts (c :: cs) l rest) : first c cs = (l, rest) := by
  obtain ⟨shape, text⟩ := l
  obtain ⟨htext, hshape, hends⟩ := h
  simp only at htext hshape
  cases hshape with
  | separator =>
    cases htext
    rfl
  | openBracket =>
    cases htext
    rfl
  | closeBracket =>
    cases htext
    have hmark : takeMark '!' rest = ([], rest) := takeMark_of_head? (hends rfl)
    simp [first, hmark]
  | markedBracket =>
    cases htext
    rfl
  | leftBrace =>
    cases htext
    rfl
  | rightBrace =>
    cases htext
    rfl
  | literal _ =>
    obtain ⟨radix, digits, hliteral, hend⟩ := hends
    have htaken := takeLiteral?_append hliteral hend
    obtain ⟨d, tail, rfl, -⟩ := hliteral.exists_cons
    obtain ⟨rfl, rfl⟩ : c = d ∧ cs = tail ++ rest := List.cons.inj htext
    rw [first_of_notMem_punctuation _ hliteral.notMem_punctuation]
    rw [List.cons_append] at htaken
    rw [htaken]
  | @word _ tail hc htail =>
    obtain ⟨rfl, rfl⟩ : c = _ ∧ cs = tail ++ rest := List.cons.inj htext
    have hplain : c ∉ punctuation := by
      intro hmem
      have hcontinues := (of_mem_punctuation hmem).1
      rw [continuesWord_of_startsWord hc] at hcontinues
      cases hcontinues
    rw [first_of_notMem_punctuation _ hplain, takeLiteral?_eq_none_of_startsWord _ hc]
    simp only [hc, if_true]
    rw [Text.takeWhile_append_of_head? htail hends, Text.dropWhile_append_of_head? htail hends]
  | other hblank hpunctuation hdigit hword =>
    cases htext
    obtain ⟨hminus, hhash⟩ := hends
    have hnone : takeLiteral? (c :: rest) = none := by
      by_cases hm : c = '-'
      · subst hm
        exact takeLiteral?_minus_eq_none_iff.mpr (hminus rfl)
      by_cases hh : c = '#'
      · subst hh
        exact takeLiteral?_hash_eq_none_iff.mpr (hhash rfl)
      exact takeLiteral?_cons_of_ne hh hm hdigit
    rw [first_of_notMem_punctuation _ hpunctuation]
    simp [hnone, hword]

/-- **The first lexeme of a text.**  It is the only one that the text can start with. -/
theorem first_eq_iff {c : Char} {cs rest : List Char} {l : Lexeme}
    (hblank : Text.isBlank c = false) : first c cs = (l, rest) ↔ Starts (c :: cs) l rest := by
  constructor
  · intro h
    have hstarts := starts_first cs hblank
    rwa [h] at hstarts
  · exact first_eq_of_starts

/-! ## All lexemes -/

theorem HasShape.isBlank_eq_false {shape : Shape} {text : List Char} (h : HasShape shape text) :
    ∀ c ∈ text, Text.isBlank c = false := by
  cases h with
  | separator | openBracket | closeBracket | markedBracket | leftBrace | rightBrace =>
    simp only [List.forall_mem_cons, List.not_mem_nil, false_implies, implies_true, and_true]
    decide
  | literal hliteral =>
    obtain ⟨hash, negative, hmark, -, hdigits⟩ := hliteral
    intro c hc
    simp only [List.mem_append] at hc
    rcases hc with (hc | hc) | hc | hc
    · cases hash <;> simp at hc
      subst hc
      rfl
    · cases negative <;> simp at hc
      subst hc
      rfl
    · cases hmark <;> simp at hc <;> rcases hc with rfl | rfl <;> rfl
    · exact Immediate.isBlank_of_isDigit (hdigits c hc)
  | word hc htail =>
    rw [List.forall_mem_cons]
    exact ⟨isBlank_of_continuesWord (continuesWord_of_startsWord hc),
      fun d hd => isBlank_of_continuesWord (htail d hd)⟩
  | other hblank => simpa using hblank

theorem HasShape.exists_cons {shape : Shape} {text : List Char} (h : HasShape shape text) :
    ∃ c tail, text = c :: tail := by
  cases h with
  | literal hliteral =>
    obtain ⟨c, tail, rfl, -⟩ := hliteral.exists_cons
    exact ⟨c, tail, rfl⟩
  | _ => exact ⟨_, _, rfl⟩

theorem Segments.hasShape {cs : List Char} {lexemes : List Lexeme} (h : Segments cs lexemes) :
    ∀ l ∈ lexemes, HasShape l.shape l.text := by
  induction h with
  | nil => simp
  | blank _ _ ih => exact ih
  | lexeme hstarts _ _ ih =>
    rw [List.forall_mem_cons]
    exact ⟨hstarts.shape, ih⟩

theorem segments_split (cs : List Char) : Segments cs (split cs) := by
  induction cs using split.induct with
  | case1 =>
    rw [split]
    exact .nil
  | case2 c rest hblank ih =>
    rw [split, if_pos hblank]
    exact .blank hblank ih
  | case3 c rest hblank ih =>
    rw [split, if_neg hblank]
    have hstarts := (first_eq_iff (Bool.eq_false_iff.mpr hblank)).mp (rfl : first c rest = _)
    exact .lexeme hstarts hstarts.shape.isBlank_eq_false ih

theorem Segments.split_eq {cs : List Char} {lexemes : List Lexeme} (h : Segments cs lexemes) :
    split cs = lexemes := by
  induction h with
  | nil => rw [split]
  | blank hc _ ih => rw [split, if_pos hc, ih]
  | @lexeme cs rest l lexemes hstarts hblank _ ih =>
    obtain ⟨c, tail, htext⟩ := hstarts.shape.exists_cons
    have hc : Text.isBlank c = false := hblank c (by rw [htext]; exact List.mem_cons_self)
    have hcs : cs = c :: (tail ++ rest) := by rw [hstarts.text, htext, List.cons_append]
    subst hcs
    rw [split, if_neg (by rw [hc]; exact Bool.false_ne_true), (first_eq_iff hc).mpr hstarts, ih]

/-- **The lexemes of a text.**  They are the only list that the text falls into. -/
theorem split_eq_iff {cs : List Char} {lexemes : List Lexeme} :
    split cs = lexemes ↔ Segments cs lexemes := by
  constructor
  · rintro rfl
    exact segments_split cs
  · exact Segments.split_eq

end Lexeme
end OperandSearch
