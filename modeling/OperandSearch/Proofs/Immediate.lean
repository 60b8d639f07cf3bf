import OperandSearch.Immediate
import OperandSearch.Proofs.Blank
import OperandSearch.Proofs.Numeral

/-!
# Which texts are immediates

The reader of immediates takes a text apart first and judges the parts afterwards, with six
complaints in a fixed order.  This file describes the accepted texts by their grammar
instead: an optional sign, an optional mark for hexadecimal, and groups of digits with single
underscores between them (`Written`).  Such a text writes an integer, and it is accepted
exactly if that integer fits a word, signed or unsigned (`Stores`).

Two facts carry the equivalence.  First, the parts of a text of the grammar are the parts the
reader finds: a run of grouped digits starts with a digit, so no sign and no mark can come
out of it (`ofChars_append`).  Second, the complaints about separators say the same as the
grammar of groups (`separated_iff`, `Separated.exists_groups`, `IsGroups.separated`).
-/

namespace OperandSearch
namespace Immediate

/-! ## The grammar -/

/-- The texts of a sign; true means minus. -/
inductive IsSign : Bool → List Char → Prop
  | absent : IsSign false []
  | plus : IsSign false ['+']
  | minus : IsSign true ['-']

/-- The texts that select a radix. -/
inductive IsMark : Radix → List Char → Prop
  | absent : IsMark .decimal []
  | lower : IsMark .hexadecimal ['0', 'x']
  | upper : IsMark .hexadecimal ['0', 'X']

/-- Groups of digits: at least one group, and in each at least one digit. -/
def IsGroups (r : Radix) (groups : List (List Char)) : Prop :=
  groups ≠ [] ∧ ∀ g ∈ groups, g ≠ [] ∧ ∀ c ∈ g, r.isDigit c = true

/-- A magnitude with a sign. -/
def signed (negative : Bool) (magnitude : ℕ) : ℤ :=
  if negative then -magnitude else magnitude

/-- A text without blanks writes an integer: sign, mark, and groups of digits joined by
single underscores, which count for nothing. -/
inductive Written : List Char → ℤ → Prop
  | intro {negative : Bool} {radix : Radix} {sign mark : List Char} {groups : List (List Char)}
      (hsign : IsSign negative sign) (hmark : IsMark radix mark) (hgroups : IsGroups radix groups) :
      Written (sign ++ mark ++ ['_'].intercalate groups)
        (signed negative (Numeral.value radix groups.flatten))

/-- A word stores an integer: the integer fits 64 bits, signed or unsigned, and the word is
its residue. -/
structure Stores (v : UInt64) (n : ℤ) : Prop where
  lower : -2 ^ 63 ≤ n
  upper : n < 2 ^ 64
  residue : (v.toNat : ℤ) = n % 2 ^ 64

/-! ## Separators

`Separated` is the grammar of groups read character by character, which is how the
complaints about separators are made. -/

/-- Digits with single underscores between some of them. -/
inductive Separated (r : Radix) : List Char → Prop
  | single {c : Char} (hc : r.isDigit c = true) : Separated r [c]
  | digit {c : Char} {cs : List Char} (hc : r.isDigit c = true) (hcs : Separated r cs) :
      Separated r (c :: cs)
  | separator {c : Char} {cs : List Char} (hc : r.isDigit c = true) (hcs : Separated r cs) :
      Separated r (c :: '_' :: cs)

variable {r : Radix} {cs : List Char}

theorem ne_of_isDigit {c : Char} (hc : r.isDigit c = true) :
    c ≠ '_' ∧ c ≠ '+' ∧ c ≠ '-' := by
  refine ⟨?_, ?_, ?_⟩ <;> rintro rfl <;> cases r <;> exact absurd hc (by decide)

theorem Separated.exists_cons (h : Separated r cs) :
    ∃ c rest, cs = c :: rest ∧ r.isDigit c = true := by
  cases h with
  | single hc => exact ⟨_, _, rfl, hc⟩
  | digit hc _ => exact ⟨_, _, rfl, hc⟩
  | separator hc _ => exact ⟨_, _, rfl, hc⟩

theorem Separated.isDigit_getLast? (h : Separated r cs) :
    ∃ c, cs.getLast? = some c ∧ r.isDigit c = true := by
  induction h with
  | single hc => exact ⟨_, rfl, hc⟩
  | digit _ hcs ih =>
    obtain ⟨_, _, rfl, _⟩ := hcs.exists_cons
    rwa [List.getLast?_cons_cons]
  | separator _ hcs ih =>
    obtain ⟨_, _, rfl, _⟩ := hcs.exists_cons
    rwa [List.getLast?_cons_cons, List.getLast?_cons_cons]

theorem Separated.isDigit_or_eq (h : Separated r cs) :
    ∀ c ∈ cs, r.isDigit c = true ∨ c = '_' := by
  induction h with
  | single hc => simp [hc]
  | digit hc _ ih => simpa [hc] using ih
  | separator hc _ ih => simpa [hc] using ih

/-- No two underscores stand side by side in separated digits. -/
theorem Separated.hasDoubleSeparator_eq_false (h : Separated r cs) :
    hasDoubleSeparator cs = false := by
  induction h with
  | single _ => simp [hasDoubleSeparator]
  | digit hc _ ih => simpa [hasDoubleSeparator, (ne_of_isDigit hc).1] using ih
  | separator hc hcs ih =>
    obtain ⟨_, _, rfl, hd⟩ := hcs.exists_cons
    simpa [hasDoubleSeparator, (ne_of_isDigit hc).1, (ne_of_isDigit hd).1] using ih

/-- Digits in which no underscore is out of place are separated. -/
theorem separated_of_not_misplaced : ∀ {cs : List Char}, cs ≠ [] →
    separatorMisplaced cs = false → (∀ c ∈ cs, c ≠ '_' → r.isDigit c = true) → Separated r cs
  | [], hne, _, _ => absurd rfl hne
  | [c], _, hsep, hdig => by
    have hc : c ≠ '_' := by
      rintro rfl
      exact absurd hsep (by decide)
    exact .single (hdig c List.mem_cons_self hc)
  | c :: d :: rest, _, hsep, hdig => by
    simp only [separatorMisplaced, List.head?_cons, List.getLast?_cons_cons,
      Bool.or_eq_false_iff, beq_eq_false_iff_ne, ne_eq, Option.some.injEq] at hsep
    obtain ⟨⟨hc, hlast⟩, hdouble⟩ := hsep
    have hdigit := hdig c List.mem_cons_self hc
    have hdouble' : hasDoubleSeparator (d :: rest) = false := by
      simpa [hasDoubleSeparator, hc] using hdouble
    by_cases hd : d = '_'
    · -- the underscore stands between two digits, so the rest starts with a digit
      subst hd
      cases rest with
      | nil => exact absurd rfl hlast
      | cons e rest =>
        have he : e ≠ '_' := by
          rintro rfl
          simp [hasDoubleSeparator] at hdouble'
        refine .separator hdigit (separated_of_not_misplaced (List.cons_ne_nil _ _) ?_ ?_)
        · rw [List.getLast?_cons_cons] at hlast
          have : hasDoubleSeparator (e :: rest) = false := by
            simpa [hasDoubleSeparator, he] using hdouble'
          simp [separatorMisplaced, he, hlast, this]
        · exact fun x hx => hdig x (List.mem_cons_of_mem _ (List.mem_cons_of_mem _ hx))
    · refine .digit hdigit (separated_of_not_misplaced (List.cons_ne_nil _ _) ?_ ?_)
      · simp [separatorMisplaced, hd, hlast, hdouble']
      · exact fun x hx => hdig x (List.mem_cons_of_mem _ hx)

/-- **What the complaints about separators and digits say.**  None of them applies exactly to
separated digits. -/
theorem separated_iff : Separated r cs ↔
    cs ≠ [] ∧ separatorMisplaced cs = false ∧
      ∀ c ∈ cs.filter (· != '_'), r.isDigit c = true := by
  constructor
  · intro h
    obtain ⟨c, rest, hcons, hc⟩ := h.exists_cons
    obtain ⟨d, hlast, hd⟩ := h.isDigit_getLast?
    refine ⟨by simp [hcons], ?_, ?_⟩
    · have hc' : cs.head? ≠ some '_' := by
        rw [hcons, List.head?_cons]
        exact fun e => (ne_of_isDigit hc).1 (Option.some.inj e)
      have hd' : cs.getLast? ≠ some '_' := by
        rw [hlast]
        exact fun e => (ne_of_isDigit hd).1 (Option.some.inj e)
      simp [separatorMisplaced, hc', hd', h.hasDoubleSeparator_eq_false]
    · intro x hx
      obtain ⟨hmem, hne⟩ := List.mem_filter.mp hx
      exact (h.isDigit_or_eq x hmem).resolve_right (by simpa using hne)
  · rintro ⟨hne, hsep, hdig⟩
    exact separated_of_not_misplaced hne hsep fun c hc hne' =>
      hdig c (List.mem_filter.mpr ⟨hc, by simpa using hne'⟩)

/-! ## Groups -/

theorem IsGroups.cons_digit {c : Char} {g : List Char} {gs : List (List Char)}
    (hc : r.isDigit c = true) (h : IsGroups r (g :: gs)) : IsGroups r ((c :: g) :: gs) := by
  obtain ⟨-, h⟩ := h
  rw [List.forall_mem_cons] at h
  refine ⟨List.cons_ne_nil _ _, ?_⟩
  rw [List.forall_mem_cons, List.forall_mem_cons]
  exact ⟨⟨List.cons_ne_nil _ _, hc, h.1.2⟩, h.2⟩

theorem IsGroups.cons_single {c : Char} {gs : List (List Char)} (hc : r.isDigit c = true)
    (h : ∀ g ∈ gs, g ≠ [] ∧ ∀ c ∈ g, r.isDigit c = true) : IsGroups r ([c] :: gs) := by
  refine ⟨List.cons_ne_nil _ _, ?_⟩
  rw [List.forall_mem_cons]
  exact ⟨⟨List.cons_ne_nil _ _, by simpa using hc⟩, h⟩

theorem Separated.exists_groups (h : Separated r cs) :
    ∃ groups, IsGroups r groups ∧ cs = ['_'].intercalate groups := by
  induction h with
  | @single c hc => exact ⟨[[c]], .cons_single hc (by simp), by simp⟩
  | @digit c cs hc _ ih =>
    obtain ⟨groups, hgroups, rfl⟩ := ih
    cases groups with
    | nil => exact absurd rfl hgroups.1
    | cons g gs => exact ⟨(c :: g) :: gs, hgroups.cons_digit hc, by simp⟩
  | @separator c cs hc _ ih =>
    obtain ⟨groups, hgroups, rfl⟩ := ih
    refine ⟨[c] :: groups, .cons_single hc hgroups.2, ?_⟩
    rw [List.intercalate_cons_of_ne_nil hgroups.1]
    rfl

theorem Separated.append_group {g tail : List Char} (hg : ∀ c ∈ g, r.isDigit c = true)
    (htail : ∀ c, r.isDigit c = true → Separated r (c :: tail)) (hne : g ≠ []) :
    Separated r (g ++ tail) := by
  induction g with
  | nil => exact absurd rfl hne
  | cons c g ih =>
    rw [List.forall_mem_cons] at hg
    cases g with
    | nil => exact htail c hg.1
    | cons d g => exact .digit hg.1 (ih hg.2 (List.cons_ne_nil _ _))

theorem IsGroups.separated {groups : List (List Char)} (h : IsGroups r groups) :
    Separated r (['_'].intercalate groups) := by
  obtain ⟨hne, h⟩ := h
  induction groups with
  | nil => exact absurd rfl hne
  | cons g gs ih =>
    rw [List.forall_mem_cons] at h
    obtain ⟨⟨hgne, hg⟩, hgs⟩ := h
    cases gs with
    | nil =>
      rw [List.intercalate_singleton, ← List.append_nil g]
      exact .append_group hg (fun c hc => .single hc) hgne
    | cons g' gs =>
      rw [List.intercalate_cons_cons, List.append_assoc]
      exact .append_group hg
        (fun c hc => .separator hc (ih (List.cons_ne_nil _ _) hgs)) hgne

theorem IsGroups.filter_intercalate {groups : List (List Char)} (h : IsGroups r groups) :
    (['_'].intercalate groups).filter (· != '_') = groups.flatten := by
  obtain ⟨hne, h⟩ := h
  induction groups with
  | nil => exact absurd rfl hne
  | cons g gs ih =>
    rw [List.forall_mem_cons] at h
    have hg : g.filter (· != '_') = g := by
      rw [List.filter_eq_self]
      intro c hc
      simpa using (ne_of_isDigit (h.1.2 c hc)).1
    cases gs with
    | nil => simp [hg]
    | cons g' gs =>
      rw [List.intercalate_cons_cons, List.filter_append, List.filter_append, hg,
        ih (List.cons_ne_nil _ _) h.2]
      simp

/-! ## Taking a text apart -/

/-- A sign is split off again from what does not start with one. -/
theorem splitSign_append {negative : Bool} {sign : List Char} (h : IsSign negative sign)
    (hcs : startsWithSign cs = false) : Spelling.splitSign (sign ++ cs) = (negative, cs) := by
  cases h with
  | absent =>
    simp only [startsWithSign, Bool.or_eq_false_iff, beq_eq_false_iff_ne, ne_eq] at hcs
    rw [List.nil_append, Spelling.splitSign.eq_def]
    split
    · exact absurd rfl hcs.2
    · exact absurd rfl hcs.1
    · rfl
  | plus => rfl
  | minus => rfl

theorem exists_isSign (cs : List Char) :
    ∃ sign, IsSign (Spelling.splitSign cs).1 sign ∧ cs = sign ++ (Spelling.splitSign cs).2 := by
  rw [Spelling.splitSign.eq_def]
  split
  · exact ⟨_, .minus, rfl⟩
  · exact ⟨_, .plus, rfl⟩
  · exact ⟨_, .absent, rfl⟩

/-- A mark is split off again from what could not belong to one. -/
theorem splitRadix_append {mark : List Char} (h : IsMark r mark)
    (hcs : r = .decimal → ∀ c ∈ cs, c ≠ 'x' ∧ c ≠ 'X') :
    Spelling.splitRadix (mark ++ cs) = (r, cs) := by
  cases h with
  | absent =>
    have hx := hcs rfl
    rw [List.nil_append, Spelling.splitRadix.eq_def]
    split
    · exact absurd rfl (hx 'x' (by simp)).1
    · exact absurd rfl (hx 'X' (by simp)).2
    · rfl
  | lower => rfl
  | upper => rfl

theorem exists_isMark (cs : List Char) :
    ∃ mark, IsMark (Spelling.splitRadix cs).1 mark ∧ cs = mark ++ (Spelling.splitRadix cs).2 := by
  rw [Spelling.splitRadix.eq_def]
  split
  · exact ⟨_, .lower, rfl⟩
  · exact ⟨_, .upper, rfl⟩
  · exact ⟨_, .absent, rfl⟩

/-- **The parts of a written text are the parts that are found.**  Separated digits start with
a digit, so neither a sign nor a mark can come out of them. -/
theorem ofChars_append {negative : Bool} {sign mark digits : List Char}
    (hsign : IsSign negative sign) (hmark : IsMark r mark) (hdigits : Separated r digits) :
    Spelling.ofChars (sign ++ mark ++ digits) = { negative, radix := r, digits } := by
  have hstart : startsWithSign (mark ++ digits) = false := by
    obtain ⟨c, rest, rfl, hc⟩ := hdigits.exists_cons
    obtain ⟨-, hplus, hminus⟩ := ne_of_isDigit hc
    cases hmark <;> simp [startsWithSign, hplus, hminus]
  have hplain : r = .decimal → ∀ c ∈ digits, c ≠ 'x' ∧ c ≠ 'X' := by
    rintro rfl c hc
    rcases hdigits.isDigit_or_eq c hc with hd | rfl
    · constructor <;> rintro rfl <;> exact absurd hd (by decide)
    · decide
  rw [Spelling.ofChars, List.append_assoc, splitSign_append hsign hstart]
  simp only [splitRadix_append hmark hplain]

theorem written_iff {text : List Char} {n : ℤ} : Written text n ↔
    Separated (Spelling.ofChars text).radix (Spelling.ofChars text).digits ∧
      n = signed (Spelling.ofChars text).negative (Numeral.value (Spelling.ofChars text).radix
        ((Spelling.ofChars text).digits.filter (· != '_'))) := by
  constructor
  · rintro ⟨hsign, hmark, hgroups⟩
    rw [ofChars_append hsign hmark hgroups.separated]
    exact ⟨hgroups.separated, by rw [hgroups.filter_intercalate]⟩
  · rintro ⟨hsep, rfl⟩
    obtain ⟨groups, hgroups, hdigits⟩ := hsep.exists_groups
    obtain ⟨sign, hsign, htext⟩ := exists_isSign text
    obtain ⟨mark, hmark, hrest⟩ := exists_isMark (Spelling.splitSign text).2
    rw [hdigits, hgroups.filter_intercalate]
    have hwritten := Written.intro hsign hmark hgroups
    have hparts : sign ++ mark ++ ['_'].intercalate groups = text := by
      rw [← hdigits, List.append_assoc, Spelling.ofChars, ← hrest, ← htext]
    rwa [hparts] at hwritten

theorem Written.unique {text : List Char} {m n : ℤ} (hm : Written text m)
    (hn : Written text n) : m = n :=
  (written_iff.mp hm).2.trans (written_iff.mp hn).2.symm

theorem isBlank_of_isDigit {c : Char} (hc : r.isDigit c = true) : Text.isBlank c = false := by
  have hbounds := Radix.toNat_bounds_of_isDigit hc
  simp only [Text.isBlank, Text.blankRuns, List.any_cons, List.any_nil, Bool.or_false,
    Bool.or_eq_false_iff, Bool.and_eq_false_iff, decide_eq_false_iff_not]
  omega

theorem Written.isBlank_eq_false {text : List Char} {n : ℤ} (h : Written text n) :
    ∀ c ∈ text, Text.isBlank c = false := by
  obtain ⟨hsign, hmark, hgroups⟩ := h
  intro c hc
  rw [List.mem_append, List.mem_append] at hc
  rcases hc with (hc | hc) | hc
  · cases hsign <;> simp at hc <;> subst hc <;> rfl
  · cases hmark <;> simp at hc <;> rcases hc with rfl | rfl <;> rfl
  · rcases hgroups.separated.isDigit_or_eq c hc with hd | rfl
    · exact isBlank_of_isDigit hd
    · rfl

/-! ## Judging the parts -/

/-- A magnitude that was read is stored exactly if it is in range with its sign. -/
theorem store_eq_iff {negative : Bool} {m : ℕ} {v : UInt64} (hm : m < 2 ^ 64) :
    (¬(negative = true ∧ UInt64.size / 2 < m) ∧ store negative m = v) ↔
      Stores v (signed negative m) := by
  have hof : (UInt64.ofNat m).toNat = m := by
    rw [UInt64.toNat_ofNat', Nat.mod_eq_of_lt hm]
  have hhalf : UInt64.size / 2 = 2 ^ 63 := rfl
  rw [← UInt64.toNat_inj, hhalf]
  cases negative with
  | false =>
    simp only [store, signed, Bool.false_eq_true, if_false, false_and, not_false_eq_true,
      true_and, hof]
    constructor
    · rintro rfl
      exact ⟨by omega, by omega, by omega⟩
    · rintro ⟨-, -, h⟩
      omega
  | true =>
    have hneg : (-UInt64.ofNat m).toNat = (2 ^ 64 - m) % 2 ^ 64 := by
      rw [← UInt64.toNat_toBitVec, UInt64.toBitVec_neg, BitVec.toNat_neg,
        UInt64.toNat_toBitVec, hof]
    simp only [store, signed, if_true, true_and, hneg]
    constructor
    · rintro ⟨hle, h⟩
      exact ⟨by omega, by omega, by omega⟩
    · rintro ⟨h, -, hres⟩
      omega

theorem Stores.magnitude_lt {negative : Bool} {m : ℕ} {v : UInt64}
    (h : Stores v (signed negative m)) : m < 2 ^ 64 := by
  cases negative with
  | false =>
    have hupper : (m : ℤ) < 2 ^ 64 := h.upper
    omega
  | true =>
    have hlower : -2 ^ 63 ≤ -(m : ℤ) := h.lower
    omega

theorem exists_stores_iff {n : ℤ} : (∃ v, Stores v n) ↔ -2 ^ 63 ≤ n ∧ n < 2 ^ 64 := by
  constructor
  · rintro ⟨v, h⟩
    exact ⟨h.lower, h.upper⟩
  · rintro ⟨hlower, hupper⟩
    refine ⟨UInt64.ofNat (n % 2 ^ 64).toNat, hlower, hupper, ?_⟩
    have hlt : (n % 2 ^ 64).toNat < 2 ^ 64 := by omega
    rw [UInt64.toNat_ofNat', Nat.mod_eq_of_lt hlt]
    omega

theorem Separated.startsWithSign_eq_false (h : Separated r cs) : startsWithSign cs = false := by
  obtain ⟨c, rest, rfl, hc⟩ := h.exists_cons
  obtain ⟨-, hplus, hminus⟩ := ne_of_isDigit hc
  simp [startsWithSign, hplus, hminus]

/-- Of separated digits only the magnitude is judged. -/
theorem value_of_separated {s : Spelling} (h : Separated s.radix s.digits) :
    s.value = match Numeral.read s.radix (s.digits.filter (· != '_')) with
      | .error fault => .error (.ofFault fault)
      | .ok magnitude =>
        if s.negative && magnitude > UInt64.size / 2 then .error .tooSmall
        else .ok (store s.negative magnitude) := by
  obtain ⟨hne, hplaced, -⟩ := separated_iff.mp h
  have hempty : s.digits.isEmpty = false := by simpa using hne
  rw [Spelling.value, hempty, hplaced, h.startsWithSign_eq_false]
  rfl

/-- **What judging accepts.**  The parts have a value exactly if the digits are separated and
the word stores what they write. -/
theorem value_eq_ok_iff {s : Spelling} {v : UInt64} : s.value = .ok v ↔
    Separated s.radix s.digits ∧
      Stores v (signed s.negative (Numeral.value s.radix (s.digits.filter (· != '_')))) := by
  by_cases hsep : Separated s.radix s.digits
  · obtain ⟨-, -, hdig⟩ := separated_iff.mp hsep
    rw [value_of_separated hsep]
    simp only [hsep, true_and]
    cases hread : Numeral.read s.radix (s.digits.filter (· != '_')) with
    | error fault =>
      simp only [reduceCtorEq, false_iff]
      -- a magnitude that is not read is too large for either sign
      intro hstores
      rw [Numeral.read_eq_ok_iff.mpr ⟨hdig, rfl, hstores.magnitude_lt⟩] at hread
      exact absurd hread (by simp)
    | ok m =>
      obtain ⟨-, rfl, hlt⟩ := Numeral.read_eq_ok_iff.mp hread
      rw [← store_eq_iff hlt]
      simp only [Bool.and_eq_true, decide_eq_true_eq]
      split <;> simp_all
  · simp only [hsep, false_and, iff_false]
    intro h
    refine hsep (separated_iff.mpr ?_)
    rw [Spelling.value] at h
    split at h
    · exact absurd h (by simp)
    split at h
    · exact absurd h (by simp)
    split at h
    · exact absurd h (by simp)
    split at h
    · exact absurd h (by simp)
    · next hne hplaced _ _ _ hread =>
      exact ⟨by simpa using hne, by simpa using hplaced, (Numeral.read_eq_ok_iff.mp hread).1⟩

/-- Why an integer is no value: its magnitude has more than 64 bits, whatever the sign, or it has
not but the integer is negative and too small. -/
def OutOfRange (n : ℤ) : Reason → Prop
  | .tooLarge => 2 ^ 64 ≤ n.natAbs
  | .tooSmall => -2 ^ 64 < n ∧ n < -2 ^ 63
  | _ => False

/-- When a magnitude with a sign is out of range. -/
theorem outOfRange_signed_iff {negative : Bool} {m : ℕ} {reason : Reason} :
    OutOfRange (signed negative m) reason ↔
      reason = .tooLarge ∧ 2 ^ 64 ≤ m ∨
        reason = .tooSmall ∧ negative = true ∧ 2 ^ 63 < m ∧ m < 2 ^ 64 := by
  have habs : (signed negative m).natAbs = m := by cases negative <;> simp [signed]
  cases reason with
  | tooLarge => simp only [OutOfRange, habs, true_and, reduceCtorEq, false_and, or_false]
  | tooSmall =>
    simp only [OutOfRange, true_and, reduceCtorEq, false_and, false_or]
    cases negative with
    | true =>
      simp only [signed, if_true, true_and]
      omega
    | false =>
      simp only [signed, Bool.false_eq_true, if_false, false_and, iff_false, not_and]
      omega
  | _ => simp [OutOfRange]

/-- **What judging complains about.**  Of separated digits, only the range of the integer. -/
theorem value_eq_error_iff {s : Spelling} {reason : Reason} (hsep : Separated s.radix s.digits) :
    s.value = .error reason ↔
      OutOfRange (signed s.negative (Numeral.value s.radix (s.digits.filter (· != '_'))))
        reason := by
  obtain ⟨-, -, hdig⟩ := separated_iff.mp hsep
  rw [outOfRange_signed_iff, value_of_separated hsep]
  generalize hmagnitude : Numeral.value s.radix (s.digits.filter (· != '_')) = m
  cases hread : Numeral.read s.radix (s.digits.filter (· != '_')) with
  | error fault =>
    obtain ⟨rfl, hle⟩ := (Numeral.read_eq_error_iff hdig).mp hread
    rw [hmagnitude] at hle
    constructor
    · rintro ⟨⟩
      exact .inl ⟨rfl, hle⟩
    · rintro (⟨rfl, -⟩ | ⟨-, -, -, hlt⟩)
      · rfl
      · omega
  | ok magnitude =>
    obtain ⟨-, hvalue, hlt⟩ := Numeral.read_eq_ok_iff.mp hread
    have hhalf : UInt64.size / 2 = 2 ^ 63 := rfl
    rw [hmagnitude] at hvalue
    subst hvalue
    simp only [hhalf, Bool.and_eq_true, decide_eq_true_eq]
    split
    · next hsmall =>
      constructor
      · rintro ⟨⟩
        exact .inr ⟨rfl, hsmall.1, hsmall.2, hlt⟩
      · rintro (⟨-, hle⟩ | ⟨rfl, -⟩)
        · omega
        · rfl
    · next hfits =>
      refine iff_of_false nofun ?_
      rintro (⟨-, hle⟩ | ⟨-, hnegative, hgt, -⟩)
      · omega
      · exact hfits ⟨hnegative, hgt⟩

/-! ## Whole texts -/

theorem parseChars_eq_ok_iff {text : List Char} {v : UInt64} : parseChars text = .ok v ↔
    ∃ body n, Text.IsTrimmed text body ∧ Written body n ∧ Stores v n := by
  rw [parseChars, value_eq_ok_iff]
  constructor
  · rintro ⟨hsep, hstores⟩
    exact ⟨_, _, Text.isTrimmed_iff.mpr rfl, written_iff.mpr ⟨hsep, rfl⟩, hstores⟩
  · rintro ⟨body, n, htrim, hwritten, hstores⟩
    rw [Text.isTrimmed_iff.mp htrim]
    obtain ⟨hsep, rfl⟩ := written_iff.mp hwritten
    exact ⟨hsep, hstores⟩

theorem Written.trimChars_eq {text : List Char} {n : ℤ} (h : Written text n) :
    Text.trimChars text = text :=
  Text.trimChars_eq_self
    (fun c hc => h.isBlank_eq_false c (List.mem_of_mem_head? hc))
    (fun c hc => h.isBlank_eq_false c (List.mem_of_mem_getLast? hc))

theorem Written.parseChars_eq_ok_iff {text : List Char} {n : ℤ} {v : UInt64}
    (h : Written text n) : parseChars text = .ok v ↔ Stores v n := by
  obtain ⟨hsep, rfl⟩ := written_iff.mp h
  rw [parseChars, h.trimChars_eq, value_eq_ok_iff]
  exact and_iff_right hsep

theorem Written.parseChars_eq_error_iff {text : List Char} {n : ℤ} {reason : Reason}
    (h : Written text n) : parseChars text = .error reason ↔ OutOfRange n reason := by
  obtain ⟨hsep, rfl⟩ := written_iff.mp h
  rw [parseChars, h.trimChars_eq, value_eq_error_iff hsep]

/-- **Which texts are immediates, and what they are worth.**  Without the blanks at its ends
the text is an optional sign, an optional `0x` or `0X`, and groups of digits of the radix
joined by single underscores; the integer it writes lies from `-2 ^ 63` up to below `2 ^ 64`;
and the value is the residue of that integer. -/
theorem parse_eq_ok_iff (s : String) (v : UInt64) : parse s = .ok v ↔
    ∃ body n, Text.IsTrimmed s.toList body ∧ Written body n ∧ Stores v n :=
  parseChars_eq_ok_iff

/-- **A number that is written is read back**, with either sign and in either radix, as the word
that stores it. -/
theorem parseChars_toDigits {negative : Bool} {sign mark : List Char} {n : ℕ} {v : UInt64}
    (hsign : IsSign negative sign) (hmark : IsMark r mark) (h : Stores v (signed negative n)) :
    parseChars (sign ++ mark ++ Nat.toDigits r.base n) = .ok v := by
  obtain ⟨hdigits, hvalue⟩ := Numeral.value_toDigits r n
  have hgroups : IsGroups r [Nat.toDigits r.base n] := by
    refine ⟨List.cons_ne_nil _ _, fun group hgroup => ?_⟩
    rw [List.mem_singleton.mp hgroup]
    exact ⟨Nat.toDigits_ne_nil, hdigits⟩
  have hwritten := Written.intro hsign hmark hgroups
  rw [List.intercalate_singleton, List.flatten_singleton, hvalue] at hwritten
  exact hwritten.parseChars_eq_ok_iff.mpr h

theorem stores_toNat (v : UInt64) : Stores v (signed false v.toNat) := by
  have hlt := v.toNat_lt
  rw [signed, if_neg Bool.false_ne_true]
  exact ⟨by omega, by omega, by omega⟩

end Immediate
end OperandSearch
