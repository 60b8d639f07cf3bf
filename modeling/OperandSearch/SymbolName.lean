import OperandSearch.SymbolName.Hashed
import OperandSearch.SymbolName.Signature
import OperandSearch.SymbolName.Tagged

/-!
# Symbol names as people read them

Compilers encode the full name of a function into one word.  There are encodings for paths
and one for signatures.  Paths are tried first, and whatever a path says is shown.  A
signature that comes out empty explains nothing, and a name that nothing explains is shown
as it is.

How encoded names are read is up to a record of readers.  The readers of this library know
two encodings of paths, the newer one in part, and most of what signatures are made of.
-/

namespace OperandSearch
namespace SymbolName

/-- Readers of encoded names, each for the names that it knows. -/
structure Readers where
  /-- What an encoded path says, without a hash at its end. -/
  path? : String → Option String
  /-- What an encoded signature says. -/
  signature? : String → Option String

namespace Readers

/-- A name in readable form. -/
def readable (readers : Readers) (name : String) : String :=
  match readers.path? name with
  | some text => text
  | none =>
    match readers.signature? name with
    | some text => if text.isEmpty then name else text
    | none => name

/-- The readers of this library. -/
def builtIn : Readers where
  path? name :=
    let path := dropImport name.toList
    ((Hashed.decode? path).or (Tagged.decode? path)).map String.ofList
  signature? name := (Signature.decode? name.toList).map String.ofList

end Readers

/-- A name in readable form, as far as this library can read it. -/
def readable (name : String) : String :=
  Readers.builtIn.readable name

end SymbolName
end OperandSearch
