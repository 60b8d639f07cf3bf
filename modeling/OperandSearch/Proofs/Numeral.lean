import Mathlib.Data.Nat.Digits.Lemmas
import OperandSearch.Text.Numeral

/-!
# What a run of digits writes

`Numeral.readFrom` goes through digits from left to right, keeps the number read so far,
and stops at the first thing that is wrong.  This file says what it computes without the
order: the number that digits write is a sum over positions (`Numeral.value`), and a run
is read exactly if all of its characters are digits and that number has at most 64 bits.

The invariant of the reading is `readFrom_eq_ok_iff`.  A number already read is worth
`base ^ length` times itself in front of the digits that follow, so it never shrinks, and an
overflow that has happened stays one: that is why stopping at it loses nothing.
-/

namespace OperandSearch

namespace Radix

theorem base_pos (r : Radix) : 0 < r.base := by
  cases r <;> decide

theorem isDigit_decimal (c : Char) : decimal.isDigit c = c.isDigit := by
  have le_iff (a b : Char) : a ≤ b ↔ a.val ≤ b.val := Iff.rfl
  simp only [isDigit, digit?, Char.isDigit, le_iff]
  split <;> simp_all

theorem toNat_bounds_of_isDigit {r : Radix} {c : Char} (h : r.isDigit c = true) :
    48 ≤ c.toNat ∧ c.toNat ≤ 57 ∨ 65 ≤ c.toNat ∧ c.toNat ≤ 70 ∨ 97 ≤ c.toNat ∧ c.toNat ≤ 102 := by
  have le_iff (a b : Char) : a ≤ b ↔ a.toNat ≤ b.toNat := Iff.rfl
  simp only [isDigit, digit?, le_iff] at h
  split at h
  · exact .inl (by assumption)
  cases r with
  | decimal => exact absurd h (by simp)
  | hexadecimal =>
    simp only at h
    split at h
    · exact .inr (.inr (by assumption))
    split at h
    · exact .inr (.inl (by assumption))
    · exact absurd h (by simp)

theorem isDigit_iff {r : Radix} {c : Char} : r.isDigit c = true ↔ ∃ d, r.digit? c = some d :=
  Option.isSome_iff_exists

theorem lt_base_of_digit? {r : Radix} {c : Char} {d : ℕ} (h : r.digit? c = some d) :
    d < r.base := by
  have le_iff (a b : Char) : a ≤ b ↔ a.toNat ≤ b.toNat := Iff.rfl
  have hzero : '0'.toNat = 48 := rfl
  have hnine : '9'.toNat = 57 := rfl
  simp only [digit?, le_iff] at h
  split at h
  · next hdigit =>
    cases h
    have hle : 10 ≤ r.base := by cases r <;> decide
    omega
  cases r with
  | decimal => cases h
  | hexadecimal =>
    have ha : 'a'.toNat = 97 := rfl
    have hf : 'f'.toNat = 102 := rfl
    have hA : 'A'.toNat = 65 := rfl
    have hF : 'F'.toNat = 70 := rfl
    rw [base]
    simp only at h
    split at h
    · cases h
      omega
    split at h
    · cases h
      omega
    · cases h

end Radix

namespace Numeral

/-- The number that a run of digits writes, the most significant digit first.  Characters
that are no digits count for nothing. -/
def value (r : Radix) (digits : List Char) : ℕ :=
  Nat.ofDigits r.base (digits.filterMap r.digit?).reverse

@[simp] theorem value_nil (r : Radix) : value r [] = 0 := rfl

/-- A digit counts for as many powers of the base as there are digits behind it. -/
theorem value_cons {r : Radix} {c : Char} {d : ℕ} {cs : List Char} (hd : r.digit? c = some d)
    (hcs : ∀ x ∈ cs, r.isDigit x = true) :
    value r (c :: cs) = d * r.base ^ cs.length + value r cs := by
  have hlen : (cs.filterMap r.digit?).length = cs.length :=
    List.filterMap_length_eq_length.mpr hcs
  rw [value, List.filterMap_cons_some hd, List.reverse_cons, Nat.ofDigits_append,
    Nat.ofDigits_singleton, List.length_reverse, hlen, value, Nat.mul_comm, Nat.add_comm]

theorem value_lt {r : Radix} {cs : List Char} (hcs : ∀ c ∈ cs, r.isDigit c = true) :
    value r cs < r.base ^ cs.length := by
  have hlen : (cs.filterMap r.digit?).length = cs.length :=
    List.filterMap_length_eq_length.mpr hcs
  have hbase : 1 < r.base := by cases r <;> decide
  rw [value, ← hlen, ← List.length_reverse]
  refine Nat.ofDigits_lt_base_pow_length hbase fun d hd => ?_
  obtain ⟨c, -, hc⟩ := List.mem_filterMap.mp (List.mem_reverse.mp hd)
  exact Radix.lt_base_of_digit? hc

/-- **What reading finds.**  Behind digits worth `acc`, a run is read exactly if it has
digits only and all of them together stay below `2 ^ 64`. -/
theorem readFrom_eq_ok_iff {r : Radix} {acc n : ℕ} {cs : List Char} (hacc : acc < 2 ^ 64) :
    readFrom r acc cs = .ok n ↔
      (∀ c ∈ cs, r.isDigit c = true) ∧ n = acc * r.base ^ cs.length + value r cs ∧
        n < 2 ^ 64 := by
  induction cs generalizing acc with
  | nil =>
    simp only [readFrom, Except.ok.injEq, List.not_mem_nil, false_imp_iff, implies_true,
      List.length_nil, pow_zero, mul_one, value_nil, add_zero, true_and]
    constructor
    · rintro rfl
      exact ⟨rfl, hacc⟩
    · exact fun h => h.1.symm
  | cons c cs ih =>
    rw [List.forall_mem_cons, readFrom]
    cases hd : r.digit? c with
    | none =>
      have hc : r.isDigit c ≠ true := by simp [Radix.isDigit, hd]
      simp [hc]
    | some d =>
      have hc : r.isDigit c = true := Radix.isDigit_iff.mpr ⟨d, hd⟩
      have expand (hcs : ∀ x ∈ cs, r.isDigit x = true) :
          acc * r.base ^ (c :: cs).length + value r (c :: cs) =
            (acc * r.base + d) * r.base ^ cs.length + value r cs := by
        rw [value_cons hd hcs, List.length_cons, pow_succ']
        ring
      by_cases hfit : acc * r.base + d < 2 ^ 64
      · have hfit' : acc * r.base + d < UInt64.size := hfit
        simp only [hfit', if_true]
        rw [ih hfit]
        constructor
        · rintro ⟨hcs, hn, hlt⟩
          exact ⟨⟨hc, hcs⟩, by rw [expand hcs, hn], hlt⟩
        · rintro ⟨⟨-, hcs⟩, hn, hlt⟩
          exact ⟨hcs, by rw [hn, expand hcs], hlt⟩
      · -- the overflow: the digits behind can only make the number larger
        have hfit' : ¬ acc * r.base + d < UInt64.size := hfit
        simp only [hfit', if_false, reduceCtorEq, false_iff]
        rintro ⟨⟨-, hcs⟩, hn, hlt⟩
        rw [expand hcs] at hn
        have hle : acc * r.base + d ≤ (acc * r.base + d) * r.base ^ cs.length :=
          Nat.le_mul_of_pos_right _ (Nat.pow_pos r.base_pos)
        omega

theorem read_eq_ok_iff {r : Radix} {n : ℕ} {cs : List Char} :
    read r cs = .ok n ↔ (∀ c ∈ cs, r.isDigit c = true) ∧ n = value r cs ∧ n < 2 ^ 64 := by
  rw [read, readFrom_eq_ok_iff (by norm_num), zero_mul, zero_add]

/-- In a run that has digits only, nothing can be wrong but that its number is too large. -/
theorem eq_overflow_of_readFrom {r : Radix} {acc : ℕ} {fault : Fault} {cs : List Char}
    (hcs : ∀ c ∈ cs, r.isDigit c = true) (h : readFrom r acc cs = .error fault) :
    fault = .overflow := by
  induction cs generalizing acc with
  | nil => cases h
  | cons c cs ih =>
    rw [List.forall_mem_cons] at hcs
    obtain ⟨d, hd⟩ := Radix.isDigit_iff.mp hcs.1
    simp only [readFrom, hd] at h
    split at h
    · exact ih hcs.2 h
    · cases h
      rfl

theorem read_eq_error_iff {r : Radix} {fault : Fault} {cs : List Char}
    (hcs : ∀ c ∈ cs, r.isDigit c = true) :
    read r cs = .error fault ↔ fault = .overflow ∧ 2 ^ 64 ≤ value r cs := by
  constructor
  · intro h
    refine ⟨eq_overflow_of_readFrom hcs h, ?_⟩
    by_contra hlt
    rw [read_eq_ok_iff.mpr ⟨hcs, rfl, Nat.lt_of_not_le hlt⟩] at h
    cases h
  · rintro ⟨rfl, hle⟩
    cases hread : read r cs with
    | ok n =>
      obtain ⟨-, rfl, hlt⟩ := read_eq_ok_iff.mp hread
      omega
    | error fault => rw [eq_overflow_of_readFrom hcs hread]

/-! ## Printed numerals -/

theorem value_append {r : Radix} {cs ds : List Char} (hds : ∀ c ∈ ds, r.isDigit c = true) :
    value r (cs ++ ds) = value r cs * r.base ^ ds.length + value r ds := by
  have hlen : (ds.filterMap r.digit?).length = ds.length :=
    List.filterMap_length_eq_length.mpr hds
  rw [value, List.filterMap_append, List.reverse_append, Nat.ofDigits_append,
    List.length_reverse, hlen, ← value, ← value, Nat.mul_comm, Nat.add_comm]

theorem value_replicate_zero_append (r : Radix) (k : ℕ) (cs : List Char) :
    value r (List.replicate k '0' ++ cs) = value r cs := by
  have hzero : r.digit? '0' = some 0 := by cases r <;> rfl
  induction k with
  | zero => rfl
  | succ k ih =>
    rw [List.replicate_succ, List.cons_append, value, List.filterMap_cons_some hzero,
      List.reverse_cons, Nat.ofDigits_append, Nat.ofDigits_singleton, Nat.mul_zero, Nat.add_zero,
      ← value, ih]

/-- **What printed digits are worth.**  In whatever way the digits of a radix are written, as long
as each is a digit of its worth, the numeral of a number has digits only and writes the number. -/
theorem value_map_toDigits {r : Radix} {form : Char → Char}
    (hform : ∀ d < r.base, r.digit? (form d.digitChar) = some d) (n : ℕ) :
    (∀ c ∈ (Nat.toDigits r.base n).map form, r.isDigit c = true) ∧
      value r ((Nat.toDigits r.base n).map form) = n := by
  have hbase : 1 < r.base := by cases r <;> decide
  have single (d : ℕ) (hd : d < r.base) : (∀ c ∈ [form d.digitChar], r.isDigit c = true) ∧
      value r [form d.digitChar] = d := by
    have hdigit := hform d hd
    refine ⟨by simpa using Radix.isDigit_iff.mpr ⟨d, hdigit⟩, ?_⟩
    rw [value_cons hdigit (by simp), List.length_nil, pow_zero, value_nil]
    omega
  induction n using Nat.strong_induction_on with
  | _ n ih =>
    by_cases hn : n < r.base
    · rw [Nat.toDigits_of_lt_base hn]
      exact single n hn
    · have hle : r.base ≤ n := Nat.le_of_not_lt hn
      obtain ⟨hlast, hvalue⟩ := single (n % r.base) (Nat.mod_lt n (by omega))
      obtain ⟨hfront, hworth⟩ := ih (n / r.base) (Nat.div_lt_self (by omega) hbase)
      rw [Nat.toDigits_of_base_le hbase hle, List.map_append, List.map_singleton]
      constructor
      · intro c hc
        exact (List.mem_append.mp hc).elim (hfront c) (hlast c)
      · rw [value_append hlast, hworth, hvalue, List.length_singleton, pow_one, Nat.mul_comm]
        exact Nat.div_add_mod n r.base

theorem value_toDigits (r : Radix) (n : ℕ) :
    (∀ c ∈ Nat.toDigits r.base n, r.isDigit c = true) ∧ value r (Nat.toDigits r.base n) = n := by
  have hform : ∀ d < r.base, r.digit? (id d.digitChar) = some d := by cases r <;> decide
  have h := value_map_toDigits hform n
  rwa [List.map_id] at h

theorem exists_digitChar_of_mem_toDigits {b n : ℕ} (hb : 1 < b) {c : Char}
    (h : c ∈ Nat.toDigits b n) : ∃ d < b, c = d.digitChar := by
  induction n using Nat.strong_induction_on with
  | _ n ih =>
    by_cases hn : n < b
    · rw [Nat.toDigits_of_lt_base hn, List.mem_singleton] at h
      exact ⟨n, hn, h⟩
    · rw [Nat.toDigits_of_base_le hb (Nat.le_of_not_lt hn), List.mem_append,
        List.mem_singleton] at h
      rcases h with h | h
      · exact ih (n / b) (Nat.div_lt_self (by omega) hb) h
      · exact ⟨n % b, Nat.mod_lt n (by omega), h⟩

/-- The digits of an address: sixteen of them, in upper case. -/
def addressDigits (v : UInt64) : List Char :=
  List.replicate (16 - (Nat.toDigits 16 v.toNat).length) '0' ++
    (Nat.toDigits 16 v.toNat).map Char.toUpper

theorem toList_address (v : UInt64) : (address v).toList = '0' :: 'x' :: addressDigits v := by
  have hmark : "0x".toList = ['0', 'x'] := rfl
  simp [address, padZeros, hexUpper, addressDigits, hmark]

/-- The digits of an address are read as the address. -/
theorem read_addressDigits (v : UInt64) : read .hexadecimal (addressDigits v) = .ok v.toNat := by
  have hform : ∀ d < Radix.hexadecimal.base,
      Radix.hexadecimal.digit? d.digitChar.toUpper = some d := by decide
  obtain ⟨hdigits, hvalue⟩ := value_map_toDigits hform v.toNat
  refine read_eq_ok_iff.mpr ⟨?_, ?_, v.toNat_lt⟩
  · intro c hc
    rcases List.mem_append.mp hc with hc | hc
    · rw [List.eq_of_mem_replicate hc]
      decide
    · exact hdigits c hc
  · rw [addressDigits, value_replicate_zero_append]
    exact hvalue.symm

theorem isDigit_of_mem_addressDigits {v : UInt64} :
    ∀ c ∈ addressDigits v, Radix.hexadecimal.isDigit c = true :=
  (read_eq_ok_iff.mp (read_addressDigits v)).1

theorem length_addressDigits (v : UInt64) : (addressDigits v).length = 16 := by
  have hle : (Nat.toDigits 16 v.toNat).length ≤ 16 :=
    (Nat.length_toDigits_le_iff (by decide) (by decide)).mpr v.toNat_lt
  rw [addressDigits, List.length_append, List.length_replicate, List.length_map]
  omega

/-- The hexadecimal digits with letters in upper case. -/
def upperDigits : List Char :=
  ['0', '1', '2', '3', '4', '5', '6', '7', '8', '9', 'A', 'B', 'C', 'D', 'E', 'F']

theorem mem_upperDigits_of_mem_addressDigits {v : UInt64} {c : Char}
    (h : c ∈ addressDigits v) : c ∈ upperDigits := by
  have hupper : ∀ d < 16, d.digitChar.toUpper ∈ upperDigits := by decide
  rcases List.mem_append.mp h with h | h
  · rw [List.eq_of_mem_replicate h]
    decide
  · obtain ⟨e, he, rfl⟩ := List.mem_map.mp h
    obtain ⟨d, hd, rfl⟩ := exists_digitChar_of_mem_toDigits (by decide) he
    exact hupper d hd

end Numeral
end OperandSearch
