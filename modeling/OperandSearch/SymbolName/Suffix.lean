/-!
# What stands behind an encoded name

A compiler that splits or clones a function adds words to its encoded name, each
behind a period.  The two path encodings treat them alike: one word that a linker adds
to imported functions is dropped before anything else is looked at, and any other
suffix is kept if it is made of visible ASCII characters.  Whatever else stands behind
an encoded path shows that it was no encoded path.
-/

namespace OperandSearch
namespace SymbolName

/-- Whether a character belongs to ASCII. -/
def isAscii (c : Char) : Bool :=
  c.toNat < 0x80

/-- Whether a character is a visible one of ASCII: a letter, a digit or punctuation. -/
def isVisibleAscii (c : Char) : Bool :=
  0x21 ≤ c.toNat && c.toNat ≤ 0x7e

/-- The word that marks an imported function. -/
def importMark : List Char := ".llvm.".toList

/-- Whether a character can stand behind the mark of an imported function. -/
def isImportDigit (c : Char) : Bool :=
  ('A' ≤ c && c ≤ 'F') || ('0' ≤ c && c ≤ '9') || c == '@'

/-- What stands in front of the first mark of an imported function and what behind it. -/
def splitImport? : List Char → Option (List Char × List Char)
  | [] => none
  | c :: cs =>
    if importMark.isPrefixOf (c :: cs) then some ([], (c :: cs).drop importMark.length)
    else (splitImport? cs).map fun parts => (c :: parts.1, parts.2)

/-- A name without the mark of an imported function and what stands behind it. -/
def dropImport (cs : List Char) : List Char :=
  match splitImport? cs with
  | some (front, behind) => if behind.all isImportDigit then front else cs
  | none => cs

/-- Whether a suffix can stand behind an encoded path. -/
def isKeptSuffix (suffix : List Char) : Bool :=
  suffix.isEmpty || suffix.head? == some '.' && suffix.all isVisibleAscii

end SymbolName
end OperandSearch
