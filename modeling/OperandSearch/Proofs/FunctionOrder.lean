import OperandSearch.Proofs.Loading

/-!
# The first symbol of each address

Which functions a binary has, and in what order, is decided by its symbols alone.  Six things
are asked of a symbol, and one that has them stands for a function (`StandsFor`).  A function
starts where its symbol says, except that on an architecture with a second instruction set an
odd address is only a way to say which set it is, and the function starts one byte lower.

Of the symbols that stand for functions at one address the first one is taken, and the
dynamic table comes into play only where the static one has none (`isFirst_append_iff`).  The
functions are listed in the order of their addresses.  So the order of the symbols matters only
among those of one address: any other change of it loads the same binary.
-/

namespace OperandSearch

namespace FunctionSymbol

variable {names : SymbolName.Readers} {hasThumb : Bool} {symbol : Object.Symbol}
  {s : FunctionSymbol}

/-! ## Addresses without their lowest bit -/

theorem mod_two_eq_iff {a bit : UInt64} : a % 2 = bit ↔ a.toNat % 2 = bit.toNat := by
  rw [← UInt64.toNat_inj, UInt64.toNat_mod]
  rfl

theorem toNat_and_not_one (a : UInt64) : (a &&& ~~~1).toNat = 2 * (a.toNat / 2) := by
  have hmask : (~~~1 : UInt64).toNat = 2 * (2 ^ 63 - 1) := rfl
  have hlow : (a.toNat &&& 2 * (2 ^ 63 - 1)) % 2 = 0 := by
    have h := Nat.and_mod_two_pow (a := a.toNat) (b := 2 * (2 ^ 63 - 1)) (n := 1)
    rwa [Nat.pow_one, Nat.mul_mod_right, Nat.and_zero] at h
  have hhigh : (a.toNat &&& 2 * (2 ^ 63 - 1)) / 2 = a.toNat / 2 := by
    rw [Nat.and_div_two, Nat.mul_div_cancel_left _ Nat.two_pos, Nat.and_two_pow_sub_one_eq_mod]
    have := a.toNat_lt
    omega
  rw [UInt64.toNat_and, hmask]
  omega

theorem and_not_one_of_odd {a : UInt64} (h : a % 2 = 1) : a &&& ~~~1 = a - 1 := by
  rw [mod_two_eq_iff, UInt64.toNat_one] at h
  have hle : (1 : UInt64) ≤ a := by
    rw [UInt64.le_iff_toNat_le, UInt64.toNat_one]
    omega
  rw [← UInt64.toNat_inj, toNat_and_not_one, UInt64.toNat_sub_of_le _ _ hle, UInt64.toNat_one]
  omega

/-- Where the function of a symbol starts: at its address, without the lowest bit if that bit
says that the function is in the second instruction set. -/
def startOf (hasThumb : Bool) (symbol : Object.Symbol) : UInt64 :=
  if hasThumb = true ∧ symbol.address % 2 = 1 then symbol.address &&& ~~~1 else symbol.address

/-- Where there is a second instruction set, functions start at even addresses. -/
theorem startOf_even (symbol : Object.Symbol) : startOf true symbol % 2 = 0 := by
  rw [startOf, mod_two_eq_iff, UInt64.toNat_zero]
  split
  · rw [toNat_and_not_one]
    exact Nat.mul_mod_right _ _
  · next heven =>
    rw [mod_two_eq_iff, UInt64.toNat_one] at heven
    have hnot : symbol.address.toNat % 2 ≠ 1 := fun hodd => heven ⟨rfl, hodd⟩
    omega

/-! ## What a symbol stands for -/

/-- A symbol stands for a function: it is text, has a size, is defined, belongs to a section
and has a name that can be read, and what the function is said to be is what the symbol
says. -/
structure StandsFor (names : SymbolName.Readers) (hasThumb : Bool) (symbol : Object.Symbol)
    (s : FunctionSymbol) : Prop where
  isText : symbol.isText = true
  size_ne_zero : symbol.size ≠ 0
  isDefinition : symbol.isDefinition = true
  sectionNumber : symbol.sectionNumber? = some s.sectionNumber
  name : ∃ name, symbol.name? = some name ∧ s.name = names.readable name
  size : s.size = symbol.size
  address : s.address = startOf hasThumb symbol
  thumb : s.thumb = true ↔ hasThumb = true ∧ symbol.address % 2 = 1

theorem ofSymbol?_eq_some_iff :
    ofSymbol? names hasThumb symbol = some s ↔ StandsFor names hasThumb symbol s := by
  have hthumb : (hasThumb && symbol.address % 2 == 1) = true ↔
      hasThumb = true ∧ symbol.address % 2 = 1 := by simp
  have haddress : (if (hasThumb && symbol.address % 2 == 1) = true then symbol.address - 1
      else symbol.address) = startOf hasThumb symbol := by
    rw [startOf]
    simp only [hthumb]
    split
    · next h => rw [and_not_one_of_odd h.2]
    · rfl
  constructor
  · intro h
    rw [ofSymbol?] at h
    split at h
    · next hsymbol =>
      simp only [Bool.and_eq_true, bne_iff_ne] at hsymbol
      split at h
      · next number name hnumber hname =>
        cases h
        exact ⟨hsymbol.1.1, hsymbol.1.2, hsymbol.2, hnumber, ⟨name, hname, rfl⟩, rfl, haddress,
          hthumb⟩
      · cases h
    · cases h
  · rintro ⟨htext, hsize, hdefinition, hnumber, ⟨name, hname, hreadable⟩, hsame, hstart, hset⟩
    have hbit : (hasThumb && symbol.address % 2 == 1) = s.thumb := by
      rw [Bool.eq_iff_iff, hthumb, hset]
    rw [hbit, ← hstart] at haddress
    rw [ofSymbol?, if_pos (by simp [htext, hsize, hdefinition]), hnumber, hname]
    simp only [hbit, haddress, ← hreadable, ← hsame]

/-! ## The first symbol of an address -/

/-- No symbol of a table stands for a function at an address. -/
def IsFree (names : SymbolName.Readers) (hasThumb : Bool) (table : List Object.Symbol)
    (address : UInt64) : Prop :=
  ∀ symbol ∈ table, ∀ s, StandsFor names hasThumb symbol s → s.address ≠ address

/-- A function is the one of the first symbol in a table that stands for a function at its
address. -/
def IsFirst (names : SymbolName.Readers) (hasThumb : Bool) (table : List Object.Symbol)
    (s : FunctionSymbol) : Prop :=
  ∃ before symbol after, table = before ++ symbol :: after ∧ StandsFor names hasThumb symbol s ∧
    IsFree names hasThumb before s.address

theorem isFree_iff {table : List Object.Symbol} {address : UInt64} :
    IsFree names hasThumb table address ↔
      firstAt? (table.filterMap (ofSymbol? names hasThumb)) address = none := by
  simp only [firstAt?, List.find?_eq_none, List.mem_filterMap, ofSymbol?_eq_some_iff, IsFree,
    beq_iff_eq]
  constructor
  · rintro h s ⟨symbol, hmem, hs⟩
    exact h symbol hmem s hs
  · exact fun h symbol hmem s hs => h s ⟨symbol, hmem, hs⟩

/-- The first symbol at an address is the one that is found there. -/
theorem isFirst_iff {table : List Object.Symbol} : IsFirst names hasThumb table s ↔
    firstAt? (table.filterMap (ofSymbol? names hasThumb)) s.address = some s := by
  have hother {symbol : Object.Symbol} :
      (!(ofSymbol? names hasThumb symbol).any fun t => t.address == s.address) = true ↔
        ∀ t, StandsFor names hasThumb symbol t → t.address ≠ s.address := by
    simp only [← ofSymbol?_eq_some_iff]
    cases ofSymbol? names hasThumb symbol <;> simp
  simp only [firstAt?, List.find?_filterMap, Option.bind_eq_some_iff,
    List.find?_eq_some_iff_append, hother, ofSymbol?_eq_some_iff]
  constructor
  · rintro ⟨before, symbol, after, htable, hsymbol, hfree⟩
    refine ⟨symbol, ⟨?_, before, after, htable, hfree⟩, hsymbol⟩
    simp [ofSymbol?_eq_some_iff.mpr hsymbol]
  · rintro ⟨symbol, ⟨-, before, after, htable, hfree⟩, hsymbol⟩
    exact ⟨before, symbol, after, htable, hsymbol, hfree⟩

/-- **The second table comes into play only where the first one has nothing.** -/
theorem isFirst_append_iff {front back : List Object.Symbol} :
    IsFirst names hasThumb (front ++ back) s ↔ IsFirst names hasThumb front s ∨
      IsFree names hasThumb front s.address ∧ IsFirst names hasThumb back s := by
  simp only [isFirst_iff, isFree_iff, firstAt?, List.filterMap_append, List.find?_append,
    Option.or_eq_some_iff]

/-- What is selected from an object file are the functions of the first symbols. -/
theorem mem_ofImage_iff {image : Object.Image} : s ∈ ofImage names hasThumb image ↔
    IsFirst names hasThumb (image.symbols ++ image.dynamicSymbols) s := by
  rw [isFirst_iff]
  exact mem_select_iff

/-! ## Other orders of the symbols -/

/-- Two lists of functions that differ at most in how functions of different addresses are
ordered: at each address they have the same functions in the same order. -/
def SameOrder (xs ys : List FunctionSymbol) : Prop :=
  ∀ address, xs.filter (·.address == address) = ys.filter (·.address == address)

/-- What is selected does not depend on how functions of different addresses are ordered. -/
theorem SameOrder.select_eq {xs ys : List FunctionSymbol} (h : SameOrder xs ys) :
    select xs = select ys := by
  refine select_congr fun address => ?_
  rw [firstAt?, firstAt?, ← List.head?_filter, ← List.head?_filter, h address]

end FunctionSymbol

namespace Binary

open FunctionSymbol (IsFirst IsFree SameOrder StandsFor candidates startOf)

variable {image : Object.Image} {d : Disassembler}

/-- Of the symbols, loading looks at what is selected only. -/
theorem loadFunctions_symbols (mapped : List AddressRange) (selected : List FunctionSymbol)
    (symbols dynamicSymbols : List Object.Symbol) :
    loadFunctions { image with symbols, dynamicSymbols } d mapped selected =
      loadFunctions image d mapped selected := by
  induction selected with
  | nil => rfl
  | cons s rest ih =>
    rw [loadFunctions, loadFunctions, ih]
    rfl

/-- **The order of the symbols.**  Symbols that stand for the same functions in the same order at
each address load the same binary, with the same records. -/
theorem ofImage_symbols {loader : Loader}
    (hd : Disassembler.ofArchitecture loader.engine image.architecture = .ok d)
    {symbols dynamicSymbols : List Object.Symbol}
    (hsame : SameOrder (candidates loader.names d.hasThumb { image with symbols, dynamicSymbols })
      (candidates loader.names d.hasThumb image)) :
    ofImage loader { image with symbols, dynamicSymbols } = ofImage loader image := by
  have hselected :
      FunctionSymbol.ofImage loader.names d.hasThumb { image with symbols, dynamicSymbols } =
        FunctionSymbol.ofImage loader.names d.hasThumb image := hsame.select_eq
  simp only [ofImage, hd, hselected, loadFunctions_symbols]

/-! ## Loaded binaries -/

theorem hasThumb_iff {engine : Engine} {architecture : Architecture}
    (h : Disassembler.ofArchitecture engine architecture = .ok d) :
    d.hasThumb = true ↔ architecture = .arm := by
  cases architecture <;> cases h <;> simp [Disassembler.hasThumb]

/-- What holds of the selected symbols, each with every later one, holds of the symbols of the
routines. -/
theorem pairwise_symbol_routinesOf {names : SymbolName.Readers}
    {R : FunctionSymbol → FunctionSymbol → Prop}
    (h : (FunctionSymbol.ofImage names d.hasThumb image).Pairwise R) :
    (routinesOf names image d).Pairwise fun r t => R r.symbol t.symbol := by
  refine h.filterMap _ fun s t hst r hr q hq => ?_
  obtain ⟨rfl, -⟩ := routine?_eq_some_iff.mp hr
  obtain ⟨rfl, -⟩ := routine?_eq_some_iff.mp hq
  exact hst

theorem pairwise_routinesOf (names : SymbolName.Readers) (image : Object.Image)
    (d : Disassembler) :
    (routinesOf names image d).Pairwise fun r t => r.symbol.address < t.symbol.address :=
  pairwise_symbol_routinesOf (FunctionSymbol.pairwise_select _)

/-- **Which functions a binary has, and in which order.**  For every file that is accepted, the
functions start at strictly increasing addresses.  Each starts where a symbol that stands for a
function says, at an even address if there is a second instruction set.  The functions are those
of the routines there are for first symbols, so the name, the size, the section and the
instruction set at an address are those of the first symbol there, where dynamic symbols count
only at addresses without a static one.  And the symbols may stand in any other order, as long
as it is the same at each address. -/
theorem functions_of_isFirst {loader : Loader} {file : Object.File} {b : Binary}
    (hload : (ofFileWith loader file).2 = .ok b) :
    ∃ image d, loader.reader file = .ok image ∧
      Disassembler.ofArchitecture loader.engine image.architecture = .ok d ∧
      (d.hasThumb = true ↔ image.architecture = .arm) ∧
      (b.functions.map (·.start)).Pairwise (· < ·) ∧
      (∀ f ∈ b.functions,
        (∃ symbol ∈ image.symbols ++ image.dynamicSymbols, ∃ s,
          StandsFor loader.names d.hasThumb symbol s ∧ f.start = startOf d.hasThumb symbol) ∧
        (image.architecture = .arm → f.start % 2 = 0)) ∧
      b.functions = (routines loader file).map (·.toFunction b.mapped) ∧
      (∀ r, r ∈ routines loader file ↔ IsRoutine image d r ∧
        (IsFirst loader.names d.hasThumb image.symbols r.symbol ∨
          IsFree loader.names d.hasThumb image.symbols r.symbol.address ∧
            IsFirst loader.names d.hasThumb image.dynamicSymbols r.symbol)) ∧
      ∀ symbols dynamicSymbols,
        SameOrder (candidates loader.names d.hasThumb { image with symbols, dynamicSymbols })
          (candidates loader.names d.hasThumb image) →
        (ofImage loader { image with symbols, dynamicSymbols }).2 = .ok b := by
  obtain ⟨image, d, hloaded⟩ := exists_isLoaded hload
  have hthumb := hasThumb_iff hloaded.disassembler
  refine ⟨image, d, hloaded.parsed, hloaded.disassembler, hthumb, ?_, ?_, hloaded.functions_eq,
    fun r => ?_, fun symbols dynamicSymbols hsame => ?_⟩
  · rw [hloaded.functions, List.map_map, List.pairwise_map]
    exact pairwise_routinesOf loader.names image d
  · intro f hf
    rw [hloaded.functions_eq] at hf
    obtain ⟨r, hr, rfl⟩ := List.mem_map.mp hf
    have hselected := (hloaded.mem_routines_iff.mp hr).1
    obtain ⟨before, symbol, after, htable, hsymbol, -⟩ :=
      FunctionSymbol.mem_ofImage_iff.mp hselected
    have hstart : (r.toFunction b.mapped).start = startOf d.hasThumb symbol := hsymbol.address
    refine ⟨⟨symbol, ?_, r.symbol, hsymbol, hstart⟩, fun harm => ?_⟩
    · rw [htable]
      simp
    · rw [hstart, hthumb.mpr harm]
      exact FunctionSymbol.startOf_even symbol
  · rw [hloaded.mem_routines_iff, FunctionSymbol.mem_ofImage_iff,
      FunctionSymbol.isFirst_append_iff, and_comm]
  · rw [ofImage_symbols hloaded.disassembler hsame]
    rw [ofFileWith, hloaded.parsed] at hload
    exact hload

/-- An object whose symbols do not stand in the order of their addresses. -/
def unorderedObject : Object.File :=
  objectFile 0x8664
    [{ address := 0x2000, code := [0x6a, 0x20, 0xc3], symbols := [("upper", 3)] },
      { address := 0x1000, code := [0x6a, 0x10, 0xc3], symbols := [("lower", 3)] }]

@[inherit_doc unorderedObject]
def upperFunction : FunctionSymbol :=
  { name := "upper", address := 0x2000, size := 3, sectionNumber := 1, thumb := false }

@[inherit_doc unorderedObject]
def lowerFunction : FunctionSymbol :=
  { name := "lower", address := 0x1000, size := 3, sectionNumber := 2, thumb := false }

set_option maxRecDepth 10000 in
/-- Its functions are listed in the order of their addresses, and they would be the same if its
symbols stood the other way around. -/
theorem functions_unorderedObject : ∃ image b,
    Object.Image.ofFile unorderedObject = .ok image ∧
    (ofFileWith .builtIn unorderedObject).2 = .ok b ∧
    b.functions.map (·.start) = [0x1000, 0x2000] ∧
    (b.functions.map (·.start)).Pairwise (· < ·) ∧
    (ofImage .builtIn { image with symbols := image.symbols.reverse }).2 = .ok b := by
  have hloaded : (ofFileWith .builtIn unorderedObject).2.toOption.any (fun b => decide (
      b.functions.map (·.start) = [0x1000, 0x2000])) = true := by decide +kernel
  have hchecked : (Object.Image.ofFile unorderedObject).toOption.any (fun image => decide (
      image.architecture = .x86_64 ∧
      candidates .builtIn false image = [upperFunction, lowerFunction] ∧
      candidates .builtIn false { image with symbols := image.symbols.reverse } =
        [lowerFunction, upperFunction])) = true := by decide +kernel
  obtain ⟨image, himage, hfacts⟩ := exists_image_of_any hchecked
  obtain ⟨harchitecture, hcandidates, hreversed⟩ := of_decide_eq_true hfacts
  obtain ⟨b, hload, hstarts⟩ := exists_ok_of_any hloaded
  obtain ⟨image', d, himage', -, hthumb, hincreasing, -, -, -, hreordered⟩ :=
    functions_of_isFirst hload
  obtain rfl : image' = image := Except.ok.inj (himage'.symm.trans himage)
  have hplain : d.hasThumb = false := by
    rw [← Bool.not_eq_true, hthumb, harchitecture]
    decide
  refine ⟨image', b, himage, hload, of_decide_eq_true hstarts, hincreasing, ?_⟩
  refine hreordered image'.symbols.reverse image'.dynamicSymbols fun address => ?_
  rw [hplain, Loader.builtIn, hcandidates, hreversed]
  by_cases haddress : address = 0x1000
  · rw [haddress]
    rfl
  · have hlower : (lowerFunction.address == address) = false :=
      beq_eq_false_iff_ne.mpr (Ne.symm haddress)
    simp [List.filter_cons, hlower]

end Binary
end OperandSearch
