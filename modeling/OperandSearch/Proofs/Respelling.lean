import Mathlib.Logic.Relation
import OperandSearch.Proofs.ReportDocument
import OperandSearch.Proofs.TableReading

/-!
# Numbers that are typed back

The program writes numbers in several forms: an address in sixteen digits in the tables, a value
without padding in the title and in documents.  An analyst who types one of them back gets the
number, and need not copy it to the letter: there may be blanks around it, a plus sign in front of
it, more zeros, other letter case, and underscores between digits.

An answer that writes an integer is taken in parts (`Parts`): blanks, sign, mark and digits, and
blanks.  What is made of it depends on the integer only, and that on the sign, the radix and what
the digits are worth, so each edit of `Respells` is followed part by part, and changes nothing
(`Respells.parseChars_eq`).  From this the statement about any number of edits, one after the other,
is an induction (`parseChars_eq_of_respells`).  The spellings in titles and tables are edits of the
spelling in documents (`respells_upper`), so that only one of the three is read digit by digit.
-/

namespace OperandSearch

/-! ## Letter case -/

theorem Text.toLower_eq_self_or (c : Char) :
    c.toLower = c ∨ ∃ n < 26, c = Char.ofNat (65 + n) := by
  by_cases h : c.val ≥ 'A'.val ∧ c.val ≤ 'Z'.val
  · have hlower : 65 ≤ c.toNat := h.1
    have hupper : c.toNat ≤ 90 := h.2
    exact .inr ⟨c.toNat - 65, by omega, by rw [Nat.add_sub_cancel' hlower, Char.ofNat_toNat]⟩
  · exact .inl (dif_neg h)

/-- The case of a digit does not matter. -/
theorem Radix.digit?_toLower (r : Radix) (c : Char) : r.digit? c.toLower = r.digit? c := by
  rcases Text.toLower_eq_self_or c with h | ⟨n, hn, rfl⟩
  · rw [h]
  · revert n
    cases r <;> decide

theorem Text.toLower_eq_underscore_iff {c : Char} : c.toLower = '_' ↔ c = '_' := by
  rcases Text.toLower_eq_self_or c with h | ⟨n, hn, rfl⟩
  · rw [h]
  · revert n
    decide

namespace Immediate

open Numeral (value)

variable {r : Radix} {cs ds : List Char}

/-! ## Digits in groups -/

theorem separated_of_forall (hne : cs ≠ []) (hcs : ∀ c ∈ cs, r.isDigit c = true) :
    Separated r cs := by
  rw [← List.append_nil cs]
  exact .append_group hcs (fun c hc => .single hc) hne

theorem Separated.replicate_append (h : Separated r cs) (k : ℕ) :
    Separated r (List.replicate k '0' ++ cs) := by
  have hzero : r.isDigit '0' = true := by cases r <;> rfl
  induction k with
  | zero => exact h
  | succ k ih => exact .digit hzero ih

theorem Separated.insert (h : Separated r cs) {front back : List Char} {a b : Char}
    (hcs : cs = front ++ a :: b :: back) (ha : a ≠ '_') (hb : b ≠ '_') :
    Separated r (front ++ a :: '_' :: b :: back) := by
  induction h generalizing front with
  | single =>
    have hlength := congrArg List.length hcs
    simp only [List.length_append, List.length_cons, List.length_nil] at hlength
    omega
  | digit hc hrest ih =>
    cases front with
    | nil =>
      obtain ⟨rfl, rfl⟩ := List.cons.inj hcs
      exact .separator hc hrest
    | cons d front =>
      obtain ⟨rfl, hrest⟩ := List.cons.inj hcs
      exact .digit hc (ih hrest)
  | separator hc hrest ih =>
    -- the underscore that is there already is neither of the two characters
    rcases front with _ | ⟨d, _ | ⟨e, front⟩⟩
    · obtain ⟨-, rfl, -⟩ := (List.cons_eq_cons.mp hcs).imp_right List.cons_eq_cons.mp
      exact absurd rfl hb
    · obtain ⟨-, rfl, -⟩ := (List.cons_eq_cons.mp hcs).imp_right List.cons_eq_cons.mp
      exact absurd rfl ha
    · obtain ⟨rfl, rfl, hrest⟩ := (List.cons_eq_cons.mp hcs).imp_right List.cons_eq_cons.mp
      exact .separator hc (ih hrest)

theorem Separated.of_map_toLower (h : Separated r cs)
    (hcs : ds.map Char.toLower = cs.map Char.toLower) : Separated r ds := by
  have hdigit {c d : Char} (hcd : d.toLower = c.toLower) (hc : r.isDigit c = true) :
      r.isDigit d = true := by
    rwa [Radix.isDigit, ← Radix.digit?_toLower, hcd, Radix.digit?_toLower]
  induction h generalizing ds with
  | single hc =>
    obtain ⟨d, rfl, hd⟩ := List.map_eq_singleton_iff.mp hcs
    exact .single (hdigit hd hc)
  | digit hc _ ih =>
    obtain ⟨d, ds, rfl, hd, hds⟩ := List.map_eq_cons_iff.mp hcs
    exact .digit (hdigit hd hc) (ih hds)
  | separator hc _ ih =>
    obtain ⟨d, rest, rfl, hd, hrest⟩ := List.map_eq_cons_iff.mp hcs
    obtain ⟨e, ds, rfl, he, hds⟩ := List.map_eq_cons_iff.mp hrest
    obtain rfl := Text.toLower_eq_underscore_iff.mp he
    exact .separator (hdigit hd hc) (ih hds)

/-- Underscores count for nothing. -/
theorem value_filter (r : Radix) (cs : List Char) :
    value r (cs.filter (· != '_')) = value r cs := by
  have hnone : r.digit? '_' = none := by cases r <;> rfl
  rw [value, value, List.filterMap_filter]
  congr 2
  refine List.filterMap_congr fun c _ => ?_
  by_cases hc : c = '_'
  · subst hc
    exact hnone.symm
  · simp [hc]

/-- One more underscore counts for nothing. -/
theorem value_insert (r : Radix) (front back : List Char) :
    value r (front ++ '_' :: back) = value r (front ++ back) := by
  rw [← value_filter, List.filter_append, List.filter_cons_of_neg (by decide),
    ← List.filter_append, value_filter]

theorem value_of_map_toLower (hcs : ds.map Char.toLower = cs.map Char.toLower) :
    value r ds = value r cs := by
  have hlower (cs : List Char) : value r (cs.map Char.toLower) = value r cs := by
    rw [value, value, List.filterMap_map]
    congr 2
    exact List.filterMap_congr fun c _ => r.digit?_toLower c
  rw [← hlower ds, hcs, hlower]

/-! ## The parts of an answer -/

/-- An answer that writes an integer, in parts. -/
structure Parts where
  lead : List Char
  negative : Bool
  sign : List Char
  radix : Radix
  mark : List Char
  digits : List Char
  trail : List Char
  lead_blank : ∀ c ∈ lead, Text.isBlank c = true
  isSign : IsSign negative sign
  isMark : IsMark radix mark
  separated : Separated radix digits
  trail_blank : ∀ c ∈ trail, Text.isBlank c = true

namespace Parts

/-- The blanks of an answer, around another body. -/
def around (p : Parts) (body : List Char) : List Char :=
  p.lead ++ body ++ p.trail

/-- The answer itself. -/
def text (p : Parts) : List Char :=
  p.around (p.sign ++ p.mark ++ p.digits)

/-- The integer it writes. -/
def integer (p : Parts) : ℤ :=
  signed p.negative (value p.radix p.digits)

theorem written (p : Parts) : Written (p.sign ++ p.mark ++ p.digits) p.integer := by
  rw [written_iff, ofChars_append p.isSign p.isMark p.separated]
  exact ⟨p.separated, by rw [value_filter, integer]⟩

end Parts

theorem parseChars_blanks {lead text trail : List Char}
    (hlead : ∀ c ∈ lead, Text.isBlank c = true) (htrail : ∀ c ∈ trail, Text.isBlank c = true) :
    parseChars (lead ++ text ++ trail) = parseChars text := by
  rw [parseChars, parseChars]
  congr 2
  obtain ⟨lead', trail', htext, hlead', htrail', hends⟩ :=
    Text.isTrimmed_iff.mpr (rfl : Text.trimChars text = Text.trimChars text)
  refine Text.isTrimmed_iff.mp ⟨lead ++ lead', trail' ++ trail, ?_, ?_, ?_, hends⟩
  · conv_lhs => rw [htext]
    simp only [List.append_assoc]
  · exact fun c hc => (List.mem_append.mp hc).elim (hlead c) (hlead' c)
  · exact fun c hc => (List.mem_append.mp hc).elim (htrail' c) (htrail c)

/-- What two texts write decides what is made of them. -/
theorem Written.parseChars_congr {text other : List Char} {n : ℤ} (h : Written text n)
    (hother : Written other n) : parseChars other = parseChars text := by
  cases hresult : parseChars text with
  | ok v => exact hother.parseChars_eq_ok_iff.mpr (h.parseChars_eq_ok_iff.mp hresult)
  | error reason =>
    exact hother.parseChars_eq_error_iff.mpr (h.parseChars_eq_error_iff.mp hresult)

/-- **The integer decides**: of two answers that write the same one the same is made. -/
theorem Parts.parseChars_text_congr {p q : Parts} (h : q.integer = p.integer) :
    parseChars q.text = parseChars p.text := by
  rw [text, text, around, around, parseChars_blanks q.lead_blank q.trail_blank,
    parseChars_blanks p.lead_blank p.trail_blank]
  exact p.written.parseChars_congr (h ▸ q.written)

/-! ## Edits -/

/-- One edit of an answer: blanks around it, a plus sign where there is no sign, zeros behind sign
and mark, letters in another case, or an underscore between two digits. -/
inductive Respells : List Char → List Char → Prop
  | blanks {text lead trail : List Char} (hlead : ∀ c ∈ lead, Text.isBlank c = true)
      (htrail : ∀ c ∈ trail, Text.isBlank c = true) : Respells text (lead ++ text ++ trail)
  | plus (p : Parts) (hsign : p.sign = []) :
      Respells p.text (p.around (['+'] ++ p.mark ++ p.digits))
  | zeros (p : Parts) (k : ℕ) :
      Respells p.text (p.around (p.sign ++ p.mark ++ (List.replicate k '0' ++ p.digits)))
  | letters (p : Parts) {mark digits : List Char} (hmark : IsMark p.radix mark)
      (hdigits : digits.map Char.toLower = p.digits.map Char.toLower) :
      Respells p.text (p.around (p.sign ++ mark ++ digits))
  | separator (p : Parts) {front back : List Char} {a b : Char}
      (hdigits : p.digits = front ++ a :: b :: back) (ha : p.radix.isDigit a = true)
      (hb : p.radix.isDigit b = true) :
      Respells p.text (p.around (p.sign ++ p.mark ++ (front ++ a :: '_' :: b :: back)))

/-- An answer without a sign is not negative. -/
theorem IsSign.negative_eq_false {negative : Bool} (h : IsSign negative []) : negative = false := by
  cases h
  rfl

/-- **What one edit keeps**: all that is made of a text, value or complaint. -/
theorem Respells.parseChars_eq {text other : List Char} (h : Respells text other) :
    parseChars other = parseChars text := by
  cases h with
  | blanks hlead htrail => exact parseChars_blanks hlead htrail
  | plus p hsign =>
    have hnegative : p.negative = false := (hsign ▸ p.isSign).negative_eq_false
    let q : Parts := { p with negative := false, sign := ['+'], isSign := .plus }
    exact Parts.parseChars_text_congr (q := q) (by rw [Parts.integer, Parts.integer, hnegative])
  | zeros p k =>
    let q : Parts := { p with
      digits := List.replicate k '0' ++ p.digits
      separated := p.separated.replicate_append k }
    have hvalue : value p.radix q.digits = value p.radix p.digits :=
      Numeral.value_replicate_zero_append p.radix k p.digits
    exact Parts.parseChars_text_congr (q := q) (congrArg (signed p.negative) hvalue)
  | @letters p mark digits hmark hdigits =>
    let q : Parts := { p with
      mark, digits, isMark := hmark, separated := p.separated.of_map_toLower hdigits }
    have hvalue : value p.radix q.digits = value p.radix p.digits := value_of_map_toLower hdigits
    exact Parts.parseChars_text_congr (q := q) (congrArg (signed p.negative) hvalue)
  | @separator p front back a b hdigits ha hb =>
    let q : Parts := { p with
      digits := front ++ a :: '_' :: b :: back
      separated := p.separated.insert hdigits (ne_of_isDigit ha).1 (ne_of_isDigit hb).1 }
    have hvalue : value p.radix q.digits = value p.radix p.digits := by
      have hinsert := value_insert p.radix (front ++ [a]) (b :: back)
      rwa [List.append_assoc, List.append_assoc, List.singleton_append, List.singleton_append,
        ← hdigits] at hinsert
    exact Parts.parseChars_text_congr (q := q) (congrArg (signed p.negative) hvalue)

/-- **What any number of edits keeps**, one after the other. -/
theorem parseChars_eq_of_respells {text other : List Char}
    (h : Relation.ReflTransGen Respells text other) : parseChars other = parseChars text := by
  induction h with
  | refl => rfl
  | tail _ hstep ih => exact hstep.parseChars_eq.trans ih

/-! ## Printed numbers -/

/-- A word, as it stands in a document but for some zeros in front, in parts. -/
def wordParts (v : UInt64) (k : ℕ) : Parts where
  lead := []
  negative := false
  sign := []
  radix := .hexadecimal
  mark := ['0', 'x']
  digits := List.replicate k '0' ++ Nat.toDigits 16 v.toNat
  trail := []
  lead_blank := by simp
  isSign := .absent
  isMark := .lower
  separated := (separated_of_forall Nat.toDigits_ne_nil
    (Numeral.value_toDigits .hexadecimal v.toNat).1).replicate_append k
  trail_blank := by simp

theorem text_wordParts (v : UInt64) (k : ℕ) : (wordParts v k).text =
    '0' :: 'x' :: (List.replicate k '0' ++ Nat.toDigits 16 v.toNat) := by
  simp [wordParts, Parts.text, Parts.around]

theorem respells_upper (v : UInt64) (k : ℕ) : Relation.ReflTransGen Respells
    (Numeral.word v).toList
    ('0' :: 'x' :: (List.replicate k '0' ++ (Nat.toDigits 16 v.toNat).map Char.toUpper)) := by
  have hmark : "0x".toList = ['0', 'x'] := rfl
  have hword : (Numeral.word v).toList = (wordParts v 0).text := by
    simp [text_wordParts, Numeral.word, Numeral.hex, hmark]
  have hzeros : Respells (wordParts v 0).text (wordParts v k).text := .zeros (wordParts v 0) k
  have hdigits : (List.replicate k '0' ++ (Nat.toDigits 16 v.toNat).map Char.toUpper).map
      Char.toLower = (wordParts v k).digits.map Char.toLower := by
    have hcase : ∀ d < 16, d.digitChar.toUpper.toLower = d.digitChar.toLower := by decide
    rw [wordParts, List.map_append, List.map_append, List.map_map]
    congr 1
    refine List.map_congr_left fun c hc => ?_
    obtain ⟨d, hd, rfl⟩ := Numeral.exists_digitChar_of_mem_toDigits (by decide) hc
    exact hcase d hd
  have hletters := Respells.letters (wordParts v k) .lower hdigits
  simp only [Parts.around, wordParts, List.nil_append, List.append_nil] at hletters
  rw [hword]
  exact (Relation.ReflTransGen.single hzeros).tail hletters

theorem parse_upper {v : UInt64} {k : ℕ} {s : String} (h : s.toList =
    '0' :: 'x' :: (List.replicate k '0' ++ (Nat.toDigits 16 v.toNat).map Char.toUpper)) :
    parse s = .ok v := by
  rw [← parse_word v, parse, parse, h]
  exact parseChars_eq_of_respells (respells_upper v k)

theorem parse_address (v : UInt64) : parse (Numeral.address v) = .ok v :=
  parse_upper (Numeral.toList_address v)

theorem parse_hexUpper (v : UInt64) : parse ("0x" ++ Numeral.hexUpper v.toNat) = .ok v := by
  have hmark : "0x".toList = ['0', 'x'] := rfl
  refine parse_upper (k := 0) ?_
  simp [Numeral.hexUpper, hmark]

theorem parse_decimal (v : UInt64) : parse (Numeral.decimal v.toNat) = .ok v := by
  have htext : (Numeral.decimal v.toNat).toList = [] ++ [] ++ Nat.toDigits 10 v.toNat := by
    rw [Numeral.decimal, String.toList_ofList, List.nil_append, List.nil_append]
  rw [parse, htext]
  exact parseChars_toDigits (r := .decimal) .absent .absent (stores_toNat v)

theorem parse_negative {i : ℤ} {w : UInt64} (hneg : i < 0) (h : Stores w i) :
    parse ("-" ++ Numeral.decimal i.natAbs) = .ok w ∧
      parse ("-0x" ++ Numeral.hex i.natAbs) = .ok w := by
  have hminus : "-".toList = ['-'] := rfl
  have hmark : "-0x".toList = ['-', '0', 'x'] := rfl
  have hsigned : signed true i.natAbs = i := by
    rw [signed, if_pos rfl]
    omega
  rw [← hsigned] at h
  constructor
  · have htext : ("-" ++ Numeral.decimal i.natAbs).toList =
        ['-'] ++ [] ++ Nat.toDigits 10 i.natAbs := by
      rw [String.toList_append, hminus, Numeral.decimal, String.toList_ofList, List.append_nil]
    rw [parse, htext]
    exact parseChars_toDigits (r := .decimal) .minus .absent h
  · have htext : ("-0x" ++ Numeral.hex i.natAbs).toList =
        ['-'] ++ ['0', 'x'] ++ Nat.toDigits 16 i.natAbs := by
      rw [String.toList_append, hmark, Numeral.hex, String.toList_ofList]
      rfl
    rw [parse, htext]
    exact parseChars_toDigits (r := .hexadecimal) .minus .lower h

theorem take_row (width : ℕ) (found : Match) :
    (Table.row width found).take 18 = (Numeral.address found.address).toList := by
  have hlength := Table.length_address found.address
  rw [Table.row, Table.line, Table.padRight, hlength]
  simp only [Nat.sub_self, List.replicate_zero, List.append_nil, List.append_assoc]
  rw [List.take_append_of_le_length hlength.ge, List.take_of_length_le hlength.le]

/-- **Every number that is printed can be typed back.**  The numeral of a title, the address that
is printed in both tables, and the words of a document are read as the numbers that they stand for,
and so is every 64-bit number in hexadecimal and in decimal.  A negative number down to `-2 ^ 63` is
read as its residue, in either radix.  And any number of edits, one after the other, leaves what is
made of a text as it is. -/
theorem parse_printed :
    (∀ report : Report, Report.Describes report report.document ∧ ∃ numeral,
      report.title = "Search immediate - " ++ numeral ∧ parse numeral = .ok report.value) ∧
    (∀ (found : Match) (width : ℕ), ∃ numeral : String,
      Page.rowOpening ++ Page.cell numeral.toList <+: Page.row found ∧
      (Table.row width found).take 18 = numeral.toList ∧
      Table.PrintsAddress found.address numeral.toList ∧ parse numeral = .ok found.address) ∧
    (∀ v : UInt64, parse (Numeral.word v) = .ok v ∧ parse (Numeral.decimal v.toNat) = .ok v) ∧
    (∀ i : ℤ, -2 ^ 63 ≤ i → i < 0 → ∃ w : UInt64, (w.toNat : ℤ) = i % 2 ^ 64 ∧
      parse ("-" ++ Numeral.decimal i.natAbs) = .ok w ∧
      parse ("-0x" ++ Numeral.hex i.natAbs) = .ok w) ∧
    ∀ text other : String, Relation.ReflTransGen Respells text.toList other.toList →
      parse other = parse text := by
  refine ⟨fun report => ⟨report.describes_document, _, ?_, parse_hexUpper report.value⟩,
    fun found width => ⟨Numeral.address found.address, ?_, take_row width found,
      Table.printsAddress_address found.address, parse_address found.address⟩,
    fun v => ⟨parse_word v, parse_decimal v⟩, fun i hle hneg => ?_,
    fun text other h => parseChars_eq_of_respells h⟩
  · have hmark : "Search immediate - 0x" = "Search immediate - " ++ "0x" := by decide
    exact (congrArg (· ++ Numeral.hexUpper report.value.toNat) hmark).trans String.append_assoc
  · rw [Page.row, List.append_assoc, List.append_assoc]
    exact List.prefix_append _ _
  · obtain ⟨w, hw⟩ := exists_stores_iff.mpr ⟨hle, by omega⟩
    exact ⟨w, hw.residue, parse_negative hneg hw⟩

/-- An answer in upper case, in parts. -/
def upperParts : Parts where
  lead := []
  negative := false
  sign := []
  radix := .hexadecimal
  mark := ['0', 'X']
  digits := ['0', '0', '1', 'F']
  trail := []
  lead_blank := by simp
  isSign := .absent
  isMark := .upper
  separated := separated_of_forall (by simp) (List.all_eq_true.mp rfl)
  trail_blank := by simp

/-- The answer with an underscore between its digits. -/
def groupedParts : Parts :=
  { upperParts with
    digits := ['0', '0', '_', '1', 'F']
    separated := @Separated.insert _ _ upperParts.separated ['0'] ['F'] '0' '1' rfl
      (by decide) (by decide) }

/-- A word that is typed back after each kind of edit, and a negative number in both radices. -/
theorem parse_printed_edited :
    Relation.ReflTransGen Respells "0x1f".toList "\u00a0+0X00_1F\n".toList ∧
      parse "\u00a0+0X00_1F\n" = .ok 31 ∧
      parse "-143" = .ok 0xffffffffffffff71 ∧ parse "-0x8f" = .ok 0xffffffffffffff71 := by
  obtain ⟨-, -, hwords, hnegative, hedits⟩ := parse_printed
  have hedited : Relation.ReflTransGen Respells "0x1f".toList "\u00a0+0X00_1F\n".toList := by
    have hzeros : Respells "0x1f".toList "0x001f".toList := .zeros (wordParts 31 0) 2
    have hletters : Respells "0x001f".toList "0X001F".toList :=
      @Respells.letters (wordParts 31 2) ['0', 'X'] ['0', '0', '1', 'F'] .upper (by decide)
    have hseparator : Respells "0X001F".toList "0X00_1F".toList :=
      @Respells.separator upperParts ['0'] ['F'] '0' '1' rfl (by decide) (by decide)
    have hplus : Respells "0X00_1F".toList "+0X00_1F".toList := .plus groupedParts rfl
    have hblanks : Respells "+0X00_1F".toList "\u00a0+0X00_1F\n".toList :=
      @Respells.blanks _ ['\u00a0'] ['\n'] (List.all_eq_true.mp rfl) (List.all_eq_true.mp rfl)
    exact .head hzeros (.head hletters (.head hseparator (.head hplus (.single hblanks))))
  obtain ⟨w, hresidue, hdecimal, hhex⟩ := hnegative (-143) (by decide) (by decide)
  have hw : w = 0xffffffffffffff71 := by
    rw [← UInt64.toNat_inj]
    have hvalue : (0xffffffffffffff71 : UInt64).toNat = 0xffffffffffffff71 := rfl
    omega
  refine ⟨hedited, (hedits _ _ hedited).trans (hwords 31).1, ?_, ?_⟩
  · exact hw ▸ hdecimal
  · exact hw ▸ hhex

end Immediate
end OperandSearch
