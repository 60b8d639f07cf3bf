import Mathlib.Control.Monad.Basic
import OperandSearch.Proofs.Loading

/-!
# Symbols that share an address

Of the symbols at one address only the first is selected, before anything is known about its
section and its bytes.  For two names of one function this settles which name is listed.  But
symbols of different sections can have the same address too: in an object that is not placed
in memory yet, every section starts at zero.  The code of all but the first is then not listed
at all, and no record says so.

`represents_iff` is what remains true.  A symbol has its code in the listing exactly if the
first symbol at its address belongs to the same section and can be used itself: its bytes lie
inside the section, and the engine does not give up on them.  Two small objects show both ways
in which a symbol that could be used is left out: behind one of another section, and behind
one that cannot be used.
-/

namespace OperandSearch
namespace Binary

open FunctionSymbol (candidates firstAt?)

variable {image : Object.Image} {d : Disassembler}

/-! ## Symbols and routines -/

/-- A routine is the code of a symbol: it starts at the symbol's address, and was decoded from
the bytes of the symbol's section. -/
structure Represents (image : Object.Image) (d : Disassembler) (r : Routine)
    (s : FunctionSymbol) : Prop where
  address : r.symbol.address = s.address
  sectionNumber : r.symbol.sectionNumber = s.sectionNumber
  isRoutine : IsRoutine image d r

/-- A symbol that can be used: its bytes lie inside its section, and can be disassembled. -/
def Usable (image : Object.Image) (d : Disassembler) (s : FunctionSymbol) : Prop :=
  ∃ bytes body, s.bytes image = .ok (some bytes) ∧ d.block s.thumb s.address bytes = .ok body

/-- The symbols that can be used are those that have a routine. -/
theorem usable_iff {s : FunctionSymbol} :
    Usable image d s ↔ ∃ r, r.symbol = s ∧ IsRoutine image d r := by
  constructor
  · rintro ⟨bytes, body, hbytes, hbody⟩
    obtain ⟨home, hhome, hin⟩ := except_bind_eq_ok_iff.mp hbytes
    exact ⟨⟨s, home, bytes, body⟩, rfl, hhome, hin, hbody⟩
  · rintro ⟨r, rfl, hroutine⟩
    exact ⟨r.bytes, r.body, except_bind_eq_ok_iff.mpr ⟨r.home, hroutine.home, hroutine.bytes⟩,
      hroutine.body⟩

/-! ## Which symbols are listed -/

/-- **Which symbols have their code in the listing.**  The functions of a loaded binary are
those of its routines.  A symbol has a routine among them exactly if the first symbol at its
address belongs to the same section and can be used. -/
theorem represents_iff {loader : Loader} {file : Object.File} {b : Binary}
    (hload : (ofFileWith loader file).2 = .ok b)
    (himage : loader.reader file = .ok image)
    (hd : Disassembler.ofArchitecture loader.engine image.architecture = .ok d) :
    b.functions = (routines loader file).map (·.toFunction b.mapped) ∧
      ∀ s ∈ candidates loader.names d.hasThumb image,
        ∃ w, firstAt? (candidates loader.names d.hasThumb image) s.address = some w ∧
          ((∃ r ∈ routines loader file, Represents image d r s) ↔
            w.sectionNumber = s.sectionNumber ∧ Usable image d w) := by
  have hloaded := isLoaded_of_eq_ok hload himage hd
  refine ⟨hloaded.functions_eq, fun s hs => ?_⟩
  obtain ⟨w, hfirst⟩ := FunctionSymbol.exists_firstAt? hs
  have haddress := (FunctionSymbol.mem_and_address_of_firstAt? hfirst).2
  refine ⟨w, hfirst, ?_, ?_⟩
  · rintro ⟨r, hr, hr_address, hr_section, hroutine⟩
    -- the routine is the one of a selected symbol, and there is only one selected at an address
    have hselected := FunctionSymbol.mem_select_iff.mp (hloaded.mem_routines_iff.mp hr).1
    rw [hr_address] at hselected
    obtain rfl : r.symbol = w := Option.some.inj (hselected.symm.trans hfirst)
    exact ⟨hr_section, usable_iff.mpr ⟨r, rfl, hroutine⟩⟩
  · rintro ⟨hsection, husable⟩
    obtain ⟨r, rfl, hroutine⟩ := usable_iff.mp husable
    rw [← haddress] at hfirst
    have hselected := FunctionSymbol.mem_select_iff.mpr hfirst
    exact ⟨r, hloaded.mem_routines_iff.mpr ⟨hselected, hroutine⟩, haddress, hsection, hroutine⟩

/-- An object with two names for its one function, the first of which is too large. -/
def aliasObject : Object.File :=
  objectFile 0x8664 [{ code := [0x6a, 0x20, 0xc3], symbols := [("wide", 100), ("entry", 3)] }]

@[inherit_doc aliasObject]
def wideAlias : FunctionSymbol :=
  { name := "wide", address := 0, size := 100, sectionNumber := 1, thumb := false }

@[inherit_doc aliasObject]
def entryAlias : FunctionSymbol :=
  { name := "entry", address := 0, size := 3, sectionNumber := 1, thumb := false }

set_option maxRecDepth 10000 in
/-- The second name can be used, but the first one keeps the function out of the listing. -/
theorem not_represents_entryAlias : ∃ image d,
    Object.Image.ofFile aliasObject = .ok image ∧
    Disassembler.ofArchitecture .builtIn image.architecture = .ok d ∧
    (ofFileWith .builtIn aliasObject).2 =
      .ok { architecture := .x86_64, mapped := [], functions := [] } ∧
    entryAlias ∈ candidates .builtIn d.hasThumb image ∧ Usable image d entryAlias ∧
    ¬∃ r ∈ routines .builtIn aliasObject, Represents image d r entryAlias := by
  have hload : (ofFileWith .builtIn aliasObject).2 =
      .ok { architecture := .x86_64, mapped := [], functions := [] } := by decide +kernel
  have hchecked : (Object.Image.ofFile aliasObject).toOption.any (fun image => decide (
      image.architecture = .x86_64 ∧ candidates .builtIn false image = [wideAlias, entryAlias] ∧
      wideAlias.bytes image = .ok none ∧
      entryAlias.bytes image = .ok (some [0x6a, 0x20, 0xc3]))) = true := by decide +kernel
  obtain ⟨image, himage, hfacts⟩ := exists_image_of_any hchecked
  obtain ⟨harchitecture, hcandidates, hwide, hentry⟩ := of_decide_eq_true hfacts
  have hd : Disassembler.ofArchitecture .builtIn image.architecture =
      .ok { engine := .builtIn, plain := .x86_64 } := by rw [harchitecture]; rfl
  have hmem : entryAlias ∈ candidates .builtIn false image := by rw [hcandidates]; decide
  obtain ⟨w, hfirst, hiff⟩ := (represents_iff hload himage hd).2 entryAlias hmem
  obtain rfl : wideAlias = w := by
    have hfound : firstAt? (candidates .builtIn false image) 0 = some wideAlias := by
      rw [hcandidates]
      rfl
    exact Option.some.inj (hfound.symm.trans hfirst)
  refine ⟨image, _, himage, hd, hload, hmem, ⟨_, _, hentry, rfl⟩, fun hrepresented => ?_⟩
  obtain ⟨-, bytes, body, hbytes, -⟩ := hiff.mp hrepresented
  exact absurd (hwide.symm.trans hbytes) (by simp)

/-! ## Two functions at one address -/

/-- An object with two sections, each of which has a function at address zero. -/
def splitObject : Object.File :=
  objectFile 0x8664 [{ code := [0x6a, 0x10, 0xc3], symbols := [("first", 3)] },
    { code := [0x6a, 0x20, 0xc3], symbols := [("second", 3)] }]

/-- The function of the second section. -/
def secondFunction : FunctionSymbol :=
  { name := "second", address := 0, size := 3, sectionNumber := 2, thumb := false }

set_option maxRecDepth 10000 in
/-- It is not so that every symbol whose bytes lie inside its section has its code in the
listing: of the two functions at address zero, only that of the first section is listed. -/
theorem not_forall_represents : ¬∀ file b image d,
    (ofFileWith .builtIn file).2 = .ok b →
    Object.Image.ofFile file = .ok image →
    Disassembler.ofArchitecture .builtIn image.architecture = .ok d →
    ∀ s ∈ candidates .builtIn d.hasThumb image, (∃ bytes, s.bytes image = .ok (some bytes)) →
      ∃ r ∈ routines .builtIn file, Represents image d r s := by
  intro hall
  have hloaded : (ofFileWith .builtIn splitObject).2.toOption.isSome = true := by decide +kernel
  have hfirst : (routines .builtIn splitObject).all (·.symbol.sectionNumber = 1) = true := by
    decide +kernel
  have hchecked : (Object.Image.ofFile splitObject).toOption.any (fun image => decide (
      image.architecture = .x86_64 ∧ secondFunction ∈ candidates .builtIn false image ∧
      secondFunction.bytes image = .ok (some [0x6a, 0x20, 0xc3]))) = true := by decide +kernel
  obtain ⟨image, himage, hfacts⟩ := exists_image_of_any hchecked
  obtain ⟨harchitecture, hmem, hbytes⟩ := of_decide_eq_true hfacts
  have hd : Disassembler.ofArchitecture .builtIn image.architecture =
      .ok { engine := .builtIn, plain := .x86_64 } := by rw [harchitecture]; rfl
  cases hload : (ofFileWith .builtIn splitObject).2 with
  | error failure =>
    rw [hload] at hloaded
    cases hloaded
  | ok b =>
    obtain ⟨r, hr, -, hsection, -⟩ := hall _ b image _ hload himage hd _ hmem ⟨_, hbytes⟩
    have hone : r.symbol.sectionNumber = 1 := of_decide_eq_true (List.all_eq_true.mp hfirst r hr)
    rw [hsection] at hone
    cases hone

end Binary
end OperandSearch
