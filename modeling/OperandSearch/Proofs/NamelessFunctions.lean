import OperandSearch.Proofs.FunctionOrder
import OperandSearch.Proofs.NamelessPaths
import OperandSearch.Proofs.Search

/-!
# Functions without a name

The name of a function, in the listing and in every find, is the readable form of the name of its
symbol.  Nothing between the symbol and the find looks at the name again.  So a function whose
symbol has a name is nameless exactly if that name is read as a path of which nothing is shown
(`function_nameless_iff`), and whoever reads the finds cannot tell from them where they are.

The readers of names and of files are any; of the reader of paths it is assumed that it prints the
older ones element by element (`Readers.PrintsPaths`).
-/

namespace OperandSearch
namespace Binary

open FunctionSymbol (StandsFor)
open SymbolName (Readers)

theorem IsLoaded.exists_symbol {loader : Loader} {file : Object.File} {image : Object.Image}
    {d : Disassembler} {b : Binary} (h : IsLoaded loader file image d b) {r : Routine}
    (hr : r ∈ routines loader file) : ∃ symbol ∈ image.symbols ++ image.dynamicSymbols,
      StandsFor loader.names d.hasThumb symbol r.symbol ∧
        ∃ raw, symbol.name? = some raw ∧ r.symbol.name = loader.names.readable raw := by
  have hselected := (h.mem_routines_iff.mp hr).1
  obtain ⟨before, symbol, after, htable, hsymbol, -⟩ :=
    FunctionSymbol.mem_ofImage_iff.mp hselected
  exact ⟨symbol, by simp [htable], hsymbol, hsymbol.name⟩

/-- **Which functions are nameless.**  A name that is not empty is shown as nothing exactly if it is
an older path of which nothing is shown, or another name that is read as an empty path; a signature
is never the reason.  In every file that is accepted each function comes from a symbol with a name.
If that name is not empty, the function is nameless, in the listing and in every find of every
search, exactly if the name is one of these. -/
theorem function_nameless_iff {loader : Loader} {print : List Char → List Char}
    (hpaths : loader.names.PrintsPaths print) {file : Object.File} {b : Binary}
    (hload : (ofFileWith loader file).2 = .ok b) :
    (∀ raw : String, raw ≠ "" → (loader.names.readable raw = "" ↔ loader.names.Hides raw)) ∧
    ∃ image d, loader.reader file = .ok image ∧
      Disassembler.ofArchitecture loader.engine image.architecture = .ok d ∧
      b.functions = (routines loader file).map (·.toFunction b.mapped) ∧
      (∀ policy v, Match.lookup policy v b.functions =
        (Match.found policy v b.mapped (routines loader file)).map (Match.ofFound b.mapped)) ∧
      ∀ r ∈ routines loader file, ∃ symbol ∈ image.symbols ++ image.dynamicSymbols, ∃ raw,
        StandsFor loader.names d.hasThumb symbol r.symbol ∧ symbol.name? = some raw ∧
        (raw ≠ "" → ((r.toFunction b.mapped).name = "" ↔ loader.names.Hides raw) ∧
          ∀ policy v, ∀ p ∈ Match.found policy v b.mapped (routines loader file), p.1 = r →
            ((Match.ofFound b.mapped p).function = "" ↔ loader.names.Hides raw)) := by
  obtain ⟨image, d, hloaded⟩ := exists_isLoaded hload
  refine ⟨fun raw => hpaths.readable_eq_empty_iff, image, d, hloaded.parsed, hloaded.disassembler,
    hloaded.functions_eq, fun policy v => ?_, fun r hr => ?_⟩
  · rw [hloaded.functions_eq, Match.lookup_eq_map_found]
  · obtain ⟨symbol, hmem, hsymbol, raw, hraw, hname⟩ := hloaded.exists_symbol hr
    refine ⟨symbol, hmem, raw, hsymbol, hraw, fun hne => ?_⟩
    have hempty : r.symbol.name = "" ↔ loader.names.Hides raw := by
      rw [hname, hpaths.readable_eq_empty_iff hne]
    refine ⟨hempty, ?_⟩
    rintro policy v p - rfl
    exact hempty

/-- An object with one function, whose symbol has for a name a path of a hash alone. -/
def hashObject : Object.File :=
  objectFile 0x8664 [{ code := [0x6a, 0x10, 0xc3], symbols := [("_ZN1hE", 3)] }]

theorem hides_hash (readers : Readers) : readers.Hides "_ZN1hE" :=
  .blank ⟨['1', 'h', 'E'], by decide,
    @SymbolName.Hashed.Blank.hash ['1'] [] (List.all_eq_true.mp rfl) rfl (List.all_eq_true.mp rfl)⟩

set_option maxRecDepth 10000 in
/-- The object is loaded, all of its symbols have this name, and what is found in it has none. -/
theorem exists_hashBinary : ∃ image b, Object.Image.ofFile hashObject = .ok image ∧
    (ofFileWith .builtIn hashObject).2 = .ok b ∧
    (∀ symbol ∈ image.symbols ++ image.dynamicSymbols, symbol.name? = some "_ZN1hE") ∧
    Match.lookup .immediates 0x10 b.functions = [⟨0, "", "push 0x10"⟩] := by
  have hloaded : (ofFileWith .builtIn hashObject).2.toOption.any (fun b => decide (
      Match.lookup .immediates 0x10 b.functions = [⟨0, "", "push 0x10"⟩])) = true := by
    decide +kernel
  have hnamed : (Object.Image.ofFile hashObject).toOption.any (fun image =>
      (image.symbols ++ image.dynamicSymbols).all (·.name? = some "_ZN1hE")) = true := by
    decide +kernel
  obtain ⟨b, hload, hfinds⟩ := exists_ok_of_any hloaded
  obtain ⟨image, himage, hsymbols⟩ := exists_image_of_any hnamed
  exact ⟨image, b, himage, hload,
    fun symbol hmem => of_decide_eq_true (List.all_eq_true.mp hsymbols symbol hmem),
    of_decide_eq_true hfinds⟩

/-- Its function is listed without a name, and found without one. -/
theorem function_nameless_hashObject : ∃ b,
    (ofFileWith .builtIn hashObject).2 = .ok b ∧
    Readers.builtIn.PrintsPaths SymbolName.Hashed.decodeElement ∧
    Readers.builtIn.readable "_ZN1hE" = "" ∧
    (∀ r ∈ routines .builtIn hashObject, (r.toFunction b.mapped).name = "") ∧
    Match.lookup .immediates 0x10 b.functions = [⟨0, "", "push 0x10"⟩] := by
  obtain ⟨image, b, himage, hload, hsymbols, hfinds⟩ := exists_hashBinary
  have hne : "_ZN1hE" ≠ "" := by decide
  have hpaths := Readers.builtIn_printsPaths
  obtain ⟨hreadable, image', d, himage', -, -, -, hroutines⟩ :=
    @function_nameless_iff .builtIn _ hpaths _ _ hload
  obtain rfl : image' = image := Except.ok.inj (himage'.symm.trans himage)
  refine ⟨b, hload, hpaths, (hreadable _ hne).mpr (hides_hash _), fun r hr => ?_, hfinds⟩
  obtain ⟨symbol, hmem, raw, -, hraw, hempty⟩ := hroutines r hr
  obtain rfl : raw = "_ZN1hE" := Option.some.inj (hraw.symm.trans (hsymbols symbol hmem))
  exact (hempty hne).1.mpr (hides_hash _)

/-- Readers that print paths as they should never have a text for every name that is not empty, and
it is not so that every function whose symbol has a name that is not empty is found with a name. -/
theorem not_forall_name_ne_empty :
    (∀ readers print, Readers.PrintsPaths readers print →
      ¬∀ raw : String, raw ≠ "" → readers.readable raw ≠ "") ∧
    ¬∀ file image b, Object.Image.ofFile file = .ok image →
      (ofFileWith .builtIn file).2 = .ok b →
      (∀ symbol ∈ image.symbols ++ image.dynamicSymbols, symbol.name? ≠ some "") →
      ∀ policy v, ∀ found ∈ Match.lookup policy v b.functions, found.function ≠ "" := by
  constructor
  · intro readers print hpaths hall
    have hne : "_ZN1hE" ≠ "" := by decide
    exact hall "_ZN1hE" hne ((hpaths.readable_eq_empty_iff hne).mpr (hides_hash readers))
  · intro hall
    obtain ⟨image, b, himage, hload, hsymbols, hfinds⟩ := exists_hashBinary
    refine hall hashObject image b himage hload ?_ .immediates 0x10 ⟨0, "", "push 0x10"⟩ ?_ rfl
    · intro symbol hmem
      rw [hsymbols symbol hmem]
      decide
    · rw [hfinds]
      exact List.mem_singleton_self _

end Binary
end OperandSearch
