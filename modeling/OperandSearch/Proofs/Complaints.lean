import Mathlib.Order.Bounds.Basic
import Mathlib.Order.Nat
import OperandSearch.Failure
import OperandSearch.Proofs.Immediate
import OperandSearch.Proofs.TextBytes

/-!
# Why an answer is refused

An answer that is no immediate is given back with one of six reasons.  Three of them are about the
look of what stands behind sign and radix, and are tried in a fixed order.  The other three are
what reading its digits can find.  Reading goes from left to right and stops at the first thing that
is wrong, so a character that is no digit and a number that grows too large race each other.

Here the race is decided without running it.  `invalidPositions` and `overflowPositions` are sets of
positions in a run of characters, and reading reports what the least of them all is about
(`read_eq_invalidDigit_iff`, `read_eq_overflow_iff`).  It makes no difference whether the run is
made of characters or of the bytes that encode them (`read_byteChars`): the two are the same as far
as there are digits, and where there is none, neither goes on.

`Complaint` states the six reasons one by one, with their wordings, and `ofAnswer_eq_error_iff` says
that an answer is refused for a reason exactly if the complaint applies to it.
-/

namespace OperandSearch

/-! ## Where reading stops -/

namespace Numeral

variable {r : Radix} {cs : List Char}

theorem readFrom_append (r : Radix) (acc : ℕ) (cs ds : List Char) :
    readFrom r acc (cs ++ ds) = readFrom r acc cs >>= (readFrom r · ds) := by
  induction cs generalizing acc with
  | nil => rfl
  | cons c cs ih =>
    rw [List.cons_append, readFrom, readFrom]
    cases r.digit? c with
    | none => rfl
    | some d =>
      simp only [ih]
      split <;> rfl

theorem value_concat {c : Char} {d : ℕ} (hd : r.digit? c = some d) (cs : List Char) :
    value r (cs ++ [c]) = value r cs * r.base + d := by
  have hc : ∀ x ∈ [c], r.isDigit x = true := by simp [Radix.isDigit, hd]
  rw [value_append hc, value_cons hd (by simp), List.length_singleton, pow_one, List.length_nil,
    pow_zero, value_nil, mul_one, add_zero]

theorem value_le_of_prefix {front : List Char} (h : front <+: cs)
    (hcs : ∀ c ∈ cs, r.isDigit c = true) : value r front ≤ value r cs := by
  obtain ⟨rest, rfl⟩ := h
  rw [value_append fun c hc => hcs c (List.mem_append_right _ hc)]
  exact le_trans (Nat.le_mul_of_pos_right _ (Nat.pow_pos r.base_pos)) (Nat.le_add_right _ _)

/-- What reading stops for at a character, when the run in front of it has been read. -/
inductive Stops (r : Radix) (before : List Char) (c : Char) : Fault → Prop
  | invalidDigit (hc : r.isDigit c = false) : Stops r before c .invalidDigit
  | overflow (hc : r.isDigit c = true) (hvalue : 2 ^ 64 ≤ value r (before ++ [c])) :
      Stops r before c .overflow

theorem readFrom_singleton_eq_error_iff {c : Char} {fault : Fault} :
    readFrom r (value r cs) [c] = .error fault ↔ Stops r cs c fault := by
  rw [readFrom]
  cases hd : r.digit? c with
  | none =>
    have hc : r.isDigit c = false := by simp [Radix.isDigit, hd]
    constructor
    · rintro ⟨⟩
      exact .invalidDigit hc
    · rintro (_ | ⟨hdigit, -⟩)
      · rfl
      · rw [hc] at hdigit
        cases hdigit
  | some d =>
    have hc : r.isDigit c = true := Radix.isDigit_iff.mpr ⟨d, hd⟩
    have hsize : UInt64.size = 2 ^ 64 := rfl
    simp only [← value_concat hd, hsize, readFrom]
    split
    · next hfit =>
      refine iff_of_false (by simp) ?_
      rintro (hnone | ⟨-, hvalue⟩)
      · rw [hc] at hnone
        cases hnone
      · omega
    · next hlarge =>
      constructor
      · rintro ⟨⟩
        exact .overflow hc (Nat.le_of_not_lt hlarge)
      · rintro (hnone | _)
        · rw [hc] at hnone
          cases hnone
        · rfl

/-- **Where reading stops.**  A run that is not read falls into digits that are, a character at
which reading stops, and the rest, which is not looked at. -/
theorem read_eq_error_iff_exists {fault : Fault} : read r cs = .error fault ↔
    ∃ before c after, cs = before ++ c :: after ∧ (∀ d ∈ before, r.isDigit d = true) ∧
      value r before < 2 ^ 64 ∧ Stops r before c fault := by
  constructor
  · -- the run grows at its end, so that what has been read stays what it is
    induction cs using List.reverseRecOn with
    | nil => exact fun h => by cases h
    | append_singleton cs c ih =>
      intro h
      rw [read, readFrom_append, ← read] at h
      cases hread : read r cs with
      | error other =>
        rw [hread] at h
        obtain rfl : other = fault := Except.error.inj h
        obtain ⟨before, d, after, rfl, hbefore⟩ := ih hread
        exact ⟨before, d, after ++ [c], by simp, hbefore⟩
      | ok n =>
        rw [hread] at h
        obtain ⟨hdigits, rfl, hlt⟩ := read_eq_ok_iff.mp hread
        exact ⟨cs, c, [], rfl, hdigits, hlt, readFrom_singleton_eq_error_iff.mp h⟩
  · rintro ⟨before, c, after, rfl, hdigits, hlt, hstops⟩
    have hbefore := read_eq_ok_iff.mpr ⟨hdigits, rfl, hlt⟩
    have hsplit : before ++ c :: after = before ++ [c] ++ after := by simp
    rw [read, hsplit, readFrom_append, readFrom_append, ← read, hbefore]
    exact congrArg (· >>= (readFrom r · after)) (readFrom_singleton_eq_error_iff.mpr hstops)

/-! ## The race of the two faults -/

/-- The positions of a run at which there is no digit. -/
def invalidPositions (r : Radix) (cs : List Char) : Set ℕ :=
  {i | ∃ c, cs[i]? = some c ∧ r.isDigit c = false}

/-- The positions of a run up to which there are digits only, and the digits write a number that
needs more than 64 bits. -/
def overflowPositions (r : Radix) (cs : List Char) : Set ℕ :=
  {j | j < cs.length ∧ (∀ c ∈ cs.take (j + 1), r.isDigit c = true) ∧
    2 ^ 64 ≤ value r (cs.take (j + 1))}

theorem exists_isLeast_le {positions : Set ℕ} {k : ℕ} (h : k ∈ positions) :
    ∃ i, IsLeast positions i ∧ i ≤ k := by
  classical
  exact ⟨Nat.find ⟨k, h⟩, Nat.isLeast_find ⟨k, h⟩, Nat.find_min' ⟨k, h⟩ h⟩

variable {before rest : List Char}

theorem length_le_of_mem_invalidPositions (hdigits : ∀ d ∈ before, r.isDigit d = true) {i : ℕ}
    (h : i ∈ invalidPositions r (before ++ rest)) : before.length ≤ i := by
  obtain ⟨d, hget, hd⟩ := h
  by_contra hlt
  rw [List.getElem?_append_left (Nat.lt_of_not_le hlt)] at hget
  rw [hdigits d (List.mem_of_getElem? hget)] at hd
  cases hd

theorem length_le_of_mem_overflowPositions (hdigits : ∀ d ∈ before, r.isDigit d = true)
    (hlt : value r before < 2 ^ 64) {j : ℕ}
    (h : j ∈ overflowPositions r (before ++ rest)) : before.length ≤ j := by
  obtain ⟨-, -, hlarge⟩ := h
  by_contra hj
  rw [List.take_append_of_le_length (by omega)] at hlarge
  have hle := value_le_of_prefix (List.take_prefix (j + 1) before) hdigits
  omega

/-- In front of a position that comes before every overflow, digits write a number of at most 64
bits. -/
theorem value_take_lt {i : ℕ} (hi : i ≤ cs.length) (hdigits : ∀ d ∈ cs.take i, r.isDigit d = true)
    (hfirst : ∀ j, IsLeast (overflowPositions r cs) j → i ≤ j) : value r (cs.take i) < 2 ^ 64 := by
  by_contra hlarge
  cases i with
  | zero => exact hlarge (by simp)
  | succ k =>
    have hmem : k ∈ overflowPositions r cs := ⟨hi, hdigits, Nat.le_of_not_lt hlarge⟩
    obtain ⟨j, hj, hle⟩ := exists_isLeast_le hmem
    have := hfirst j hj
    omega

/-- **When a character is reported.**  A run is refused for a character that is no digit exactly if
there is one, and the first one does not come behind the first overflow. -/
theorem read_eq_invalidDigit_iff : read r cs = .error .invalidDigit ↔
    ∃ i, IsLeast (invalidPositions r cs) i ∧
      ∀ j, IsLeast (overflowPositions r cs) j → i ≤ j := by
  rw [read_eq_error_iff_exists]
  constructor
  · rintro ⟨before, c, after, rfl, hdigits, hlt, hstops⟩
    cases hstops with
    | invalidDigit hc =>
      have hmem : before.length ∈ invalidPositions r (before ++ c :: after) :=
        ⟨c, by simp, hc⟩
      exact ⟨before.length, ⟨hmem, fun i => length_le_of_mem_invalidPositions hdigits⟩,
        fun j hj => length_le_of_mem_overflowPositions hdigits hlt hj.1⟩
  · rintro ⟨i, ⟨⟨c, hget, hc⟩, hleast⟩, hfirst⟩
    obtain ⟨hi, rfl⟩ := List.getElem?_eq_some_iff.mp hget
    have hdigits : ∀ d ∈ cs.take i, r.isDigit d = true := by
      intro d hd
      by_contra hnone
      obtain ⟨k, hk, rfl⟩ := List.mem_take_iff_getElem.mp hd
      have hlength : k < cs.length := by omega
      have hle : i ≤ k :=
        hleast ⟨cs[k], List.getElem?_eq_getElem hlength, eq_false_of_ne_true hnone⟩
      omega
    exact ⟨cs.take i, cs[i], cs.drop (i + 1), by simp, hdigits,
      value_take_lt hi.le hdigits hfirst, .invalidDigit hc⟩

/-- **When an overflow is reported.**  A run is refused for its number exactly if there is an
overflow, and the first one comes before every character that is no digit. -/
theorem read_eq_overflow_iff : read r cs = .error .overflow ↔
    ∃ j, IsLeast (overflowPositions r cs) j ∧
      ∀ i, IsLeast (invalidPositions r cs) i → j < i := by
  rw [read_eq_error_iff_exists]
  constructor
  · rintro ⟨before, c, after, rfl, hdigits, hlt, hstops⟩
    cases hstops with
    | overflow hc hvalue =>
      have htake : (before ++ c :: after).take (before.length + 1) = before ++ [c] :=
        List.take_length_add_append 1
      have hall : ∀ d ∈ before ++ [c], r.isDigit d = true := by
        intro d hd
        rcases List.mem_append.mp hd with hd | hd
        · exact hdigits d hd
        · rwa [List.mem_singleton.mp hd]
      have hmem : before.length ∈ overflowPositions r (before ++ c :: after) := by
        refine ⟨by simp, ?_, ?_⟩ <;> rwa [htake]
      refine ⟨before.length, ⟨hmem, fun j => length_le_of_mem_overflowPositions hdigits hlt⟩,
        fun i hi => ?_⟩
      have hinvalid := hi.1
      rw [List.append_cons] at hinvalid
      have hle := length_le_of_mem_invalidPositions hall hinvalid
      rw [List.length_append, List.length_singleton] at hle
      omega
  · rintro ⟨j, ⟨⟨hj, hall, hvalue⟩, hleast⟩, -⟩
    rw [← List.take_append_getElem hj] at hall hvalue
    have hdigits : ∀ d ∈ cs.take j, r.isDigit d = true := fun d hd =>
      hall d (List.mem_append_left _ hd)
    exact ⟨cs.take j, cs[j], cs.drop (j + 1), by simp, hdigits,
      value_take_lt hj.le hdigits fun k hk => hleast hk.1,
      .overflow (hall _ (List.mem_append_right _ (List.mem_singleton_self _))) hvalue⟩

/-! ## Characters and their bytes -/

/-- The bytes of some characters, each as the character of its number. -/
def byteChars (cs : List Char) : List Char :=
  (Bytes.ofText (String.ofList cs)).map Char.ofUInt8

theorem byteChars_cons (c : Char) (cs : List Char) :
    byteChars (c :: cs) = (String.utf8EncodeChar c).map Char.ofUInt8 ++ byteChars cs := by
  rw [byteChars, byteChars, Bytes.ofText_eq_flatMap, Bytes.ofText_eq_flatMap,
    String.toList_ofList, String.toList_ofList, List.flatMap_cons, List.map_append]

theorem byteChars_cases (c : Char) :
    (String.utf8EncodeChar c).map Char.ofUInt8 = [c] ∨
      ∃ b bs, (String.utf8EncodeChar c).map Char.ofUInt8 = b :: bs ∧ 0x80 ≤ c.toNat ∧
        0x80 ≤ b.toNat := by
  have hnumber (b : UInt8) : (Char.ofUInt8 b).toNat = b.toNat := UInt8.toNat_toUInt32 b
  by_cases hc : c.val.toNat ≤ 0x7f
  · left
    have hencode : String.utf8EncodeChar c = [UInt8.ofNat c.val.toNat] := by
      simp only [String.utf8EncodeChar, if_pos hc]
    rw [hencode, List.map_singleton, List.singleton_inj, ← Char.toNat_inj, hnumber,
      UInt8.toNat_ofNat', Nat.mod_eq_of_lt (by omega)]
    rfl
  · right
    have hlong : 0x80 ≤ c.toNat := Nat.lt_of_not_le hc
    obtain ⟨b, bs, hencode⟩ := List.exists_cons_of_ne_nil (String.utf8EncodeChar_ne_nil (c := c))
    have hmem : b ∈ String.utf8EncodeChar c := by
      rw [hencode]
      exact List.mem_cons_self
    refine ⟨Char.ofUInt8 b, bs.map Char.ofUInt8, by rw [hencode, List.map_cons], hlong, ?_⟩
    rw [hnumber]
    rcases Bytes.toNat_of_mem_utf8EncodeChar hmem with hb | hb
    · exact hb ▸ hlong
    · exact hb

/-- **It makes no difference whether characters are read or their bytes.** -/
theorem read_byteChars (r : Radix) (cs : List Char) : read r (byteChars cs) = read r cs := by
  suffices h : ∀ acc, readFrom r acc (byteChars cs) = readFrom r acc cs from h 0
  induction cs with
  | nil => exact fun acc => rfl
  | cons c cs ih =>
    intro acc
    have hnone {b : Char} (hb : 0x80 ≤ b.toNat) : r.digit? b = none := by
      by_contra hdigit
      have := Radix.toNat_bounds_of_isDigit (Option.isSome_iff_ne_none.mpr hdigit)
      omega
    rw [byteChars_cons]
    rcases byteChars_cases c with hone | ⟨b, bs, hbytes, hc, hb⟩
    · rw [hone, List.singleton_append, readFrom, readFrom]
      simp only [ih]
    · rw [hbytes, List.cons_append, readFrom, readFrom, hnone hb, hnone hc]

end Numeral

/-! ## Complaints -/

namespace Immediate

open Numeral (byteChars invalidPositions overflowPositions value)

/-- A text is taken apart into a sign, a mark for the radix, and the rest.  There is no sign only if
the text starts with none, and no mark only if what stands behind the sign starts with none. -/
inductive TakenApart (text : List Char) (s : Spelling) : Prop
  | intro {sign mark : List Char} (hsign : IsSign s.negative sign) (hmark : IsMark s.radix mark)
      (htext : text = sign ++ mark ++ s.digits)
      (hunsigned : sign = [] → text.head? ≠ some '+' ∧ text.head? ≠ some '-')
      (hunmarked : mark = [] → ¬['0', 'x'] <+: s.digits ∧ ¬['0', 'X'] <+: s.digits)

/-- Where no mark was split off, there is none. -/
theorem not_mark_of_splitRadix {cs : List Char} (h : cs = (Spelling.splitRadix cs).2) :
    ¬['0', 'x'] <+: cs ∧ ¬['0', 'X'] <+: cs := by
  constructor <;> rintro ⟨rest, rfl⟩ <;>
    exact absurd (List.append_left_eq_self.mp h) (List.cons_ne_nil _ _)

/-- **There is one way to take a text apart.** -/
theorem takenApart_iff {text : List Char} {s : Spelling} :
    TakenApart text s ↔ Spelling.ofChars text = s := by
  constructor
  · rintro ⟨hsign, hmark, rfl, hunsigned, hunmarked⟩
    rename_i sign mark
    obtain ⟨negative, radix, digits⟩ := s
    have hsplit : Spelling.splitSign (sign ++ (mark ++ digits)) = (negative, mark ++ digits) := by
      cases hsign with
      | absent => exact splitSign_append .absent (by simpa [startsWithSign] using hunsigned rfl)
      | plus => rfl
      | minus => rfl
    have hmarked : Spelling.splitRadix (mark ++ digits) = (radix, digits) := by
      cases hmark with
      | absent =>
        obtain ⟨hlower, hupper⟩ := hunmarked rfl
        rw [List.nil_append, Spelling.splitRadix.eq_def]
        split
        · exact absurd ⟨_, rfl⟩ hlower
        · exact absurd ⟨_, rfl⟩ hupper
        · rfl
      | lower => rfl
      | upper => rfl
    rw [Spelling.ofChars, List.append_assoc, hsplit]
    simp only [hmarked]
  · rintro rfl
    obtain ⟨sign, hsign, htext⟩ := exists_isSign text
    obtain ⟨mark, hmark, hrest⟩ := exists_isMark (Spelling.splitSign text).2
    refine .intro hsign hmark ?_ ?_ ?_
    · rw [List.append_assoc, Spelling.ofChars, ← hrest, ← htext]
    · -- a sign that was there would have been taken off
      rintro rfl
      constructor <;> intro hhead <;> obtain ⟨rest, rfl⟩ := List.head?_eq_some_iff.mp hhead <;>
        exact absurd htext (List.cons_ne_self _ _)
    · rintro rfl
      rw [List.nil_append] at hrest
      have hdigits : (Spelling.ofChars text).digits = (Spelling.splitSign text).2 := hrest.symm
      rw [hdigits]
      exact not_mark_of_splitRadix hrest

/-- An underscore stands where it separates no two digits. -/
def MisplacesSeparator (digits : List Char) : Prop :=
  digits.head? = some '_' ∨ digits.getLast? = some '_' ∨ ['_', '_'] <:+: digits

theorem hasDoubleSeparator_iff {cs : List Char} :
    hasDoubleSeparator cs = true ↔ ['_', '_'] <:+: cs := by
  fun_induction hasDoubleSeparator cs with
  | case1 rest => exact iff_of_true rfl ⟨[], rest, rfl⟩
  | case2 c cs hnot ih =>
    rw [ih, List.infix_cons_iff]
    refine (or_iff_right ?_).symm
    rintro ⟨rest, h⟩
    obtain ⟨rfl, rfl⟩ := List.cons.inj h
    exact hnot rest rfl rfl
  | case3 => simp

theorem separatorMisplaced_iff {digits : List Char} :
    separatorMisplaced digits = true ↔ MisplacesSeparator digits := by
  simp [separatorMisplaced, MisplacesSeparator, hasDoubleSeparator_iff, or_assoc]

/-- What stands behind sign and mark looks like digits: it is not empty, no underscore is out of
place, and it does not start with a second sign. -/
structure LooksRight (digits : List Char) : Prop where
  ne_nil : digits ≠ []
  placed : ¬MisplacesSeparator digits
  unsigned : digits.head? ≠ some '+' ∧ digits.head? ≠ some '-'

/-- What is read as digits: the bytes of what stands behind sign and mark, without underscores. -/
def Spelling.run (s : Spelling) : List Char :=
  byteChars (s.digits.filter (· != '_'))

/-- The complaints about the parts of a text, each with its wording.  The first three are made in
this order.  If none of them applies, reading stops at the first character that is no digit or at
the first overflow, whichever comes first; and if it does not stop at all, a negative number can be
too small. -/
inductive Complaint (s : Spelling) : (wording : String) → Prop
  | noDigits (h : s.digits = []) : Complaint s "no digits"
  | misplacedSeparator (hne : s.digits ≠ []) (h : MisplacesSeparator s.digits) :
      Complaint s "misplaced digit separator"
  | unexpectedSign (hne : s.digits ≠ []) (hplaced : ¬MisplacesSeparator s.digits)
      (h : s.digits.head? = some '+' ∨ s.digits.head? = some '-') : Complaint s "unexpected sign"
  | invalidDigit {i : ℕ} (hlooks : LooksRight s.digits)
      (hi : IsLeast (invalidPositions s.radix s.run) i)
      (hfirst : ∀ j, IsLeast (overflowPositions s.radix s.run) j → i ≤ j) :
      Complaint s "invalid digit found in string"
  | tooLarge {j : ℕ} (hlooks : LooksRight s.digits)
      (hj : IsLeast (overflowPositions s.radix s.run) j)
      (hfirst : ∀ i, IsLeast (invalidPositions s.radix s.run) i → j < i) :
      Complaint s "number too large to fit in target type"
  | tooSmall (hlooks : LooksRight s.digits) (hdigits : ∀ c ∈ s.run, s.radix.isDigit c = true)
      (hnegative : s.negative = true) (hlower : 2 ^ 63 < value s.radix s.run)
      (hupper : value s.radix s.run < 2 ^ 64) :
      Complaint s "number too small to fit in target type"

theorem Reason.text_injective : Function.Injective Reason.text := by
  intro a b h
  cases a <;> cases b <;> first | rfl | exact absurd h (by decide)

theorem startsWithSign_iff {digits : List Char} :
    startsWithSign digits = true ↔ digits.head? = some '+' ∨ digits.head? = some '-' := by
  simp [startsWithSign]

variable {s : Spelling}

/-- **What looks right is read.** -/
theorem value_of_looksRight (h : LooksRight s.digits) :
    s.value = match Numeral.read s.radix s.run with
      | .error fault => .error (.ofFault fault)
      | .ok magnitude =>
        if s.negative && magnitude > UInt64.size / 2 then .error .tooSmall
        else .ok (store s.negative magnitude) := by
  have hempty : s.digits.isEmpty = false := by simpa using h.ne_nil
  have hplaced : separatorMisplaced s.digits = false := by
    simpa [← separatorMisplaced_iff] using h.placed
  have hunsigned : startsWithSign s.digits = false := by
    simpa [startsWithSign] using h.unsigned
  rw [Spelling.value, hempty, hplaced, hunsigned, Spelling.run, Numeral.read_byteChars]
  rfl

/-- What is complained of, if what stands behind sign and mark looks right. -/
theorem complaint_of_looksRight (h : LooksRight s.digits) {reason : Reason}
    (hvalue : s.value = .error reason) : Complaint s reason.text := by
  rw [value_of_looksRight h] at hvalue
  split at hvalue
  · next fault hread =>
    obtain rfl : Reason.ofFault fault = reason := Except.error.inj hvalue
    cases fault with
    | invalidDigit =>
      obtain ⟨i, hi, hfirst⟩ := Numeral.read_eq_invalidDigit_iff.mp hread
      exact .invalidDigit h hi hfirst
    | overflow =>
      obtain ⟨j, hj, hfirst⟩ := Numeral.read_eq_overflow_iff.mp hread
      exact .tooLarge h hj hfirst
  · next magnitude hread =>
    obtain ⟨hdigits, rfl, hupper⟩ := Numeral.read_eq_ok_iff.mp hread
    split at hvalue
    · next hsmall =>
      obtain rfl : Reason.tooSmall = reason := Except.error.inj hvalue
      rw [Bool.and_eq_true, decide_eq_true_eq] at hsmall
      exact .tooSmall h hdigits hsmall.1 hsmall.2 hupper
    · cases hvalue

/-- A text is refused with the wording of a complaint that applies to it. -/
theorem Complaint.exists_reason {wording : String} (h : Complaint s wording) :
    ∃ reason : Reason, reason.text = wording ∧ s.value = .error reason := by
  cases h with
  | noDigits h => exact ⟨.noDigits, rfl, by rw [Spelling.value, h]; rfl⟩
  | misplacedSeparator hne h =>
    refine ⟨.misplacedSeparator, rfl, ?_⟩
    rw [Spelling.value, if_neg (by simpa using hne), if_pos (separatorMisplaced_iff.mpr h)]
  | unexpectedSign hne hplaced h =>
    refine ⟨.unexpectedSign, rfl, ?_⟩
    rw [Spelling.value, if_neg (by simpa using hne), if_neg (mt separatorMisplaced_iff.mp hplaced),
      if_pos (startsWithSign_iff.mpr h)]
  | invalidDigit hlooks hi hfirst =>
    refine ⟨.invalidDigit, rfl, ?_⟩
    rw [value_of_looksRight hlooks, Numeral.read_eq_invalidDigit_iff.mpr ⟨_, hi, hfirst⟩]
    rfl
  | tooLarge hlooks hj hfirst =>
    refine ⟨.tooLarge, rfl, ?_⟩
    rw [value_of_looksRight hlooks, Numeral.read_eq_overflow_iff.mpr ⟨_, hj, hfirst⟩]
    rfl
  | tooSmall hlooks hdigits hnegative hlower hupper =>
    refine ⟨.tooSmall, rfl, ?_⟩
    rw [value_of_looksRight hlooks, Numeral.read_eq_ok_iff.mpr ⟨hdigits, rfl, hupper⟩]
    simp only [hnegative, Bool.true_and]
    exact if_pos (decide_eq_true hlower)

theorem exists_complaint_or_looksRight (s : Spelling) :
    (∃ wording, Complaint s wording) ∨ LooksRight s.digits := by
  by_cases hne : s.digits = []
  · exact .inl ⟨_, .noDigits hne⟩
  by_cases hplaced : MisplacesSeparator s.digits
  · exact .inl ⟨_, .misplacedSeparator hne hplaced⟩
  by_cases hsign : s.digits.head? = some '+' ∨ s.digits.head? = some '-'
  · exact .inl ⟨_, .unexpectedSign hne hplaced hsign⟩
  · exact .inr ⟨hne, hplaced, not_or.mp hsign⟩

/-- **Which complaint is made.**  The parts of a text are refused for a reason exactly if the
complaint with its wording applies to them. -/
theorem value_eq_error_iff_complaint {reason : Reason} :
    s.value = .error reason ↔ Complaint s reason.text := by
  constructor
  · intro hvalue
    rcases exists_complaint_or_looksRight s with ⟨wording, hcomplaint⟩ | hlooks
    · obtain ⟨other, htext, hother⟩ := hcomplaint.exists_reason
      obtain rfl : other = reason := Except.error.inj (hother.symm.trans hvalue)
      rwa [htext]
    · exact complaint_of_looksRight hlooks hvalue
  · intro h
    obtain ⟨other, htext, hother⟩ := h.exists_reason
    rwa [Reason.text_injective htext] at hother

/-- **What is read is never empty**, and has no sign of its own: what looks right starts with a
character that is neither an underscore nor a sign. -/
theorem LooksRight.run_ne_nil (h : LooksRight s.digits) :
    s.run ≠ [] ∧ s.run.head? ≠ some '+' ∧ s.run.head? ≠ some '-' := by
  obtain ⟨c, cs, hdigits⟩ := List.exists_cons_of_ne_nil h.ne_nil
  have hc : c ≠ '_' := by
    rintro rfl
    exact h.placed (.inl (by rw [hdigits, List.head?_cons]))
  have hunsigned := h.unsigned
  rw [hdigits, List.head?_cons] at hunsigned
  rw [Spelling.run, hdigits, List.filter_cons_of_pos (by simpa using hc), Numeral.byteChars_cons]
  rcases Numeral.byteChars_cases c with hone | ⟨b, bs, hbytes, -, hb⟩
  · rw [hone, List.singleton_append, List.head?_cons]
    exact ⟨List.cons_ne_nil _ _, hunsigned⟩
  · rw [hbytes, List.cons_append, List.head?_cons]
    refine ⟨List.cons_ne_nil _ _, ?_, ?_⟩ <;> rintro ⟨⟩ <;> exact absurd hb (by decide)

/-! ## Answers -/

/-- **Why an answer is refused.**  An answer is refused exactly if a complaint applies to the parts
of the text that is left of it without the blanks at its ends, and then the failure repeats the
answer as it was given, with the reason that has the wording of the complaint.  No other reason is
needed: what is left to read once the first three complaints are ruled out is not empty, and does
not start with a sign. -/
theorem ofAnswer_eq_error_iff (answer : String) (failure : Failure) :
    (ofAnswer answer = .error failure ↔
      ∃ reason body s, failure = .invalidImmediate answer reason ∧
        Text.IsTrimmed answer.toList body ∧ TakenApart body s ∧ Complaint s reason.text) ∧
    ∀ s : Spelling, LooksRight s.digits →
      s.run ≠ [] ∧ s.run.head? ≠ some '+' ∧ s.run.head? ≠ some '-' := by
  refine ⟨?_, fun s => LooksRight.run_ne_nil⟩
  have hparts {reason : Reason} : parse answer = .error reason ↔
      ∃ body s, Text.IsTrimmed answer.toList body ∧ TakenApart body s ∧
        Complaint s reason.text := by
    simp only [Text.isTrimmed_iff, takenApart_iff, ← value_eq_error_iff_complaint]
    constructor
    · exact fun h => ⟨_, _, rfl, rfl, h⟩
    · rintro ⟨_, _, rfl, rfl, h⟩
      exact h
  have hfailure : ofAnswer answer = .error failure ↔
      ∃ reason, failure = .invalidImmediate answer reason ∧ parse answer = .error reason := by
    rw [ofAnswer]
    cases parse answer with
    | ok v => simp
    | error reason => simp [eq_comm]
  rw [hfailure]
  simp only [hparts, exists_and_left]

/-- An answer with a number that grows too large in front of a character that is no digit. -/
def racingAnswer : String :=
  " -0X1_0000_0000_0000_0000\u00e9"

/-- It is refused for the number, and repeated with the space in front of it. -/
theorem ofAnswer_racingAnswer :
    ofAnswer racingAnswer = .error (.invalidImmediate racingAnswer .tooLarge) ∧
      ∃ body s, Text.IsTrimmed racingAnswer.toList body ∧ TakenApart body s ∧
        Complaint s "number too large to fit in target type" ∧ s.run ≠ [] := by
  have hrefused : ofAnswer racingAnswer = .error (.invalidImmediate racingAnswer .tooLarge) := by
    decide +kernel
  have hlooks : LooksRight (Spelling.ofChars (Text.trimChars racingAnswer.toList)).digits := by
    refine ⟨by decide +kernel, ?_, by decide +kernel⟩
    rw [← separatorMisplaced_iff]
    decide +kernel
  obtain ⟨hcomplaints, hreadable⟩ :=
    ofAnswer_eq_error_iff racingAnswer (.invalidImmediate racingAnswer .tooLarge)
  obtain ⟨reason, body, s, hfailure, htrimmed, hparts, hcomplaint⟩ := hcomplaints.mp hrefused
  obtain rfl : Reason.tooLarge = reason := by
    cases hfailure
    rfl
  rw [← takenApart_iff.mp hparts, ← Text.isTrimmed_iff.mp htrimmed] at hcomplaint
  exact ⟨hrefused, _, _, Text.isTrimmed_iff.mpr rfl, takenApart_iff.mpr rfl, hcomplaint,
    (hreadable _ hlooks).1⟩

end Immediate
end OperandSearch
