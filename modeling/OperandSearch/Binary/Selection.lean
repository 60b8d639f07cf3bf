import OperandSearch.Object.Image
import OperandSearch.SymbolName
import Std.Data.TreeMap

/-!
# Which symbols are functions

A function is a symbol that is text, has a size, is defined in this file, belongs to a
section, and has a name that can be read.  Symbols are taken in the order of their
tables, the static table before the dynamic one, and at most one is taken for an
address: the first.  The functions are then ordered by address.

On an architecture with a second instruction set the lowest bit of an odd address says
that the function uses it; the function starts one byte lower.  Two symbols for one
place meet at the same address, whichever instruction set they name.
-/

namespace OperandSearch

/-- A symbol that was taken for a function. -/
structure FunctionSymbol where
  name : String
  address : UInt64
  size : UInt64
  sectionNumber : Nat
  thumb : Bool
  deriving DecidableEq, Repr

namespace FunctionSymbol

/-- The function a symbol stands for, if it stands for one. -/
def ofSymbol? (names : SymbolName.Readers) (hasThumb : Bool) (symbol : Object.Symbol) :
    Option FunctionSymbol :=
  if symbol.isText && symbol.size != 0 && symbol.isDefinition then
    match symbol.sectionNumber?, symbol.name? with
    | some sectionNumber, some name =>
      let thumb := hasThumb && symbol.address % 2 == 1
      some {
        name := names.readable name
        address := if thumb then symbol.address - 1 else symbol.address
        size := symbol.size
        sectionNumber
        thumb }
    | _, _ => none
  else none

/-- Adds a function unless its address is taken. -/
def add (taken : Std.TreeMap UInt64 FunctionSymbol) (s : FunctionSymbol) :
    Std.TreeMap UInt64 FunctionSymbol :=
  taken.insertIfNew s.address s

/-- The functions among candidates, the first for each address, ordered by address. -/
def select (candidates : List FunctionSymbol) : List FunctionSymbol :=
  (candidates.foldl add ∅).toList.map Prod.snd

/-- The functions of an object file. -/
def ofImage (names : SymbolName.Readers) (hasThumb : Bool) (image : Object.Image) :
    List FunctionSymbol :=
  select ((image.symbols ++ image.dynamicSymbols).filterMap (ofSymbol? names hasThumb))

/-- The bytes of a function.  A section that does not exist or cannot be read is a fault; a
function that does not lie inside its section has no bytes. -/
def bytes (image : Object.Image) (s : FunctionSymbol) :
    Except Object.Fault (Option (List UInt8)) := do
  (← image.sectionAt s.sectionNumber).bytesAt s.address s.size

end FunctionSymbol
end OperandSearch
