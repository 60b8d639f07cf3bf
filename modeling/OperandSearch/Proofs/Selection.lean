import Mathlib.Data.Finset.Card
import Mathlib.Data.List.Sort
import OperandSearch.Binary.Selection

/-!
# Which symbol an address keeps

The candidates of a file are put into an ordered map one after the other, and an address that
is taken stays as it is.  So what the map holds at an address is known without the map: it is
the first candidate there (`mem_select_iff`).

The invariant is `getElem?_foldl_add`.  A lookup in a map that more candidates have been put
into gives what the map had before, and if it had nothing, the first of the new candidates at
that address.

The map is read out in the order of its addresses (`pairwise_select`), so the first candidates of
all addresses determine what is selected (`select_congr`).
-/

namespace OperandSearch
namespace FunctionSymbol

/-- The first candidate at an address. -/
def firstAt? (candidates : List FunctionSymbol) (address : UInt64) : Option FunctionSymbol :=
  candidates.find? fun s => s.address == address

theorem mem_and_address_of_firstAt? {candidates : List FunctionSymbol} {address : UInt64}
    {s : FunctionSymbol} (h : firstAt? candidates address = some s) :
    s ∈ candidates ∧ s.address = address :=
  ⟨List.mem_of_find?_eq_some h, by simpa using List.find?_some h⟩

/-- Where there is a candidate, there is a first one. -/
theorem exists_firstAt? {candidates : List FunctionSymbol} {s : FunctionSymbol}
    (h : s ∈ candidates) : ∃ w, firstAt? candidates s.address = some w := by
  rw [← Option.isSome_iff_exists, firstAt?, List.find?_isSome]
  exact ⟨s, h, beq_self_eq_true _⟩

/-- Adding a candidate fills its address if that is free, and changes nothing else. -/
theorem getElem?_add (taken : Std.TreeMap UInt64 FunctionSymbol) (s : FunctionSymbol)
    (address : UInt64) :
    (add taken s)[address]? =
      taken[address]?.or (if s.address = address then some s else none) := by
  rw [add, Std.TreeMap.getElem?_insertIfNew]
  simp only [Std.LawfulEqCmp.compare_eq_iff_eq, Std.TreeMap.mem_iff_isSome_getElem?]
  by_cases haddress : s.address = address
  · subst haddress
    cases taken[s.address]? <;> simp
  · simp [haddress]

/-- **The first candidate wins.**  After several candidates were added, an address holds what
it held before, or else the first of them there. -/
theorem getElem?_foldl_add (candidates : List FunctionSymbol)
    (taken : Std.TreeMap UInt64 FunctionSymbol) (address : UInt64) :
    (candidates.foldl add taken)[address]? =
      taken[address]?.or (firstAt? candidates address) := by
  induction candidates generalizing taken with
  | nil => simp [firstAt?]
  | cons s rest ih =>
    rw [List.foldl_cons, ih, getElem?_add, Option.or_assoc, firstAt?, firstAt?, List.find?_cons]
    by_cases haddress : s.address = address
    · simp [haddress]
    · simp [haddress, beq_eq_false_iff_ne.mpr haddress]

theorem mem_toList_foldl_add {candidates : List FunctionSymbol} {address : UInt64}
    {s : FunctionSymbol} : (address, s) ∈ (candidates.foldl add ∅).toList ↔
      firstAt? candidates address = some s := by
  rw [Std.TreeMap.mem_toList_iff_getElem?_eq_some, getElem?_foldl_add,
    Std.TreeMap.getElem?_emptyc, Option.none_or]

/-- **What is selected.**  A symbol is selected exactly if it is the first candidate at its
address. -/
theorem mem_select_iff {candidates : List FunctionSymbol} {s : FunctionSymbol} :
    s ∈ select candidates ↔ firstAt? candidates s.address = some s := by
  rw [select, List.mem_map]
  constructor
  · rintro ⟨⟨address, s⟩, hmem, rfl⟩
    rw [mem_toList_foldl_add] at hmem
    rwa [(mem_and_address_of_firstAt? hmem).2]
  · intro h
    exact ⟨(s.address, s), mem_toList_foldl_add.mpr h, rfl⟩

/-- **What is selected is ordered by address**, and no address stands there twice. -/
theorem pairwise_select (candidates : List FunctionSymbol) :
    (select candidates).Pairwise fun s t => s.address < t.address := by
  rw [select, List.pairwise_map]
  refine Std.TreeMap.ordered_keys_toList.imp_of_mem fun hs ht hlt => ?_
  rw [(mem_and_address_of_firstAt? (mem_toList_foldl_add.mp hs)).2,
    (mem_and_address_of_firstAt? (mem_toList_foldl_add.mp ht)).2]
  exact Std.compare_eq_lt.mp hlt

/-- What is selected is known from the first candidate of each address. -/
theorem select_congr {xs ys : List FunctionSymbol}
    (h : ∀ address, firstAt? xs address = firstAt? ys address) : select xs = select ys := by
  have : Std.Irrefl fun s t : FunctionSymbol => s.address < t.address :=
    ⟨fun s => UInt64.lt_irrefl s.address⟩
  have : Std.Antisymm fun s t : FunctionSymbol => s.address < t.address :=
    ⟨fun s t hst hts => absurd hts (UInt64.lt_asymm hst)⟩
  refine (pairwise_select xs).eq_of_mem_iff (pairwise_select ys) fun s => ?_
  rw [mem_select_iff, mem_select_iff, h]

/-! ## What is taken for a function -/

variable {names : SymbolName.Readers} {hasThumb : Bool}

/-- The functions of an object file that compete for its addresses, in the order of the
symbols. -/
def candidates (names : SymbolName.Readers) (hasThumb : Bool) (image : Object.Image) :
    List FunctionSymbol :=
  (image.symbols ++ image.dynamicSymbols).filterMap (ofSymbol? names hasThumb)

theorem size_ne_zero_of_ofSymbol? {symbol : Object.Symbol} {s : FunctionSymbol}
    (h : ofSymbol? names hasThumb symbol = some s) : s.size ≠ 0 := by
  rw [ofSymbol?] at h
  split at h
  · next hsymbol =>
    split at h
    · cases h
      simp only [Bool.and_eq_true, bne_iff_ne] at hsymbol
      exact hsymbol.1.2
    · cases h
  · cases h

theorem size_ne_zero_of_mem_ofImage {image : Object.Image} {s : FunctionSymbol}
    (h : s ∈ ofImage names hasThumb image) : s.size ≠ 0 := by
  have hmem : s ∈ candidates names hasThumb image :=
    (mem_and_address_of_firstAt? (mem_select_iff.mp h)).1
  obtain ⟨symbol, -, hsymbol⟩ := List.mem_filterMap.mp hmem
  exact size_ne_zero_of_ofSymbol? hsymbol

end FunctionSymbol
end OperandSearch
