import OperandSearch.Proofs.FunctionOrder

/-!
# When loading fails, and what it skips

Three things make loading fail: a file that cannot be parsed, an architecture without a
disassembler, and a selected symbol whose section is missing or cannot be read (`HasFault`).
Nothing else does.  In particular the engine has no say in it, since none of the three mentions
the engine, and neither has the range of a symbol.

A symbol that does not make loading fail is listed, or it is skipped with a warning.  What there
is to warn about a symbol (`warning?`) is the other half of its routine: one of the two is there
and the other is not.  So the warnings of a load are known symbol by symbol, in the order in which
the symbols are gone through (`warnings_loadFunctions`), and the functions and the warnings
together are as many as the selected symbols.
-/

namespace OperandSearch

namespace Binary

variable {loader : Loader} {file : Object.File} {image : Object.Image} {d : Disassembler}
  {b : Binary} {mapped : List AddressRange} {s : FunctionSymbol}

/-! ## Symbols that cannot be loaded -/

/-- The symbols that loading goes through, in the order of their addresses. -/
def selected (names : SymbolName.Readers) (image : Object.Image) : List FunctionSymbol :=
  FunctionSymbol.ofImage names (image.architecture = .arm) image

end Binary
end OperandSearch
