import OperandSearch.Object.Image

/-!
# COFF objects and PE executables

Both have the same file header, section headers and symbol table, always with the
least significant byte first.  A PE executable has them behind a header of an older
format, adds a base address to all of its addresses, and can do without symbols: if
its symbol table is damaged it has none, where for an object that is a fault.

A symbol is followed by auxiliary records, which are no symbols themselves.  Only the
auxiliary record of an external function says how large the function is.
-/

namespace OperandSearch
namespace Object
namespace Coff

/-- The size of the file header. -/
def headerSize : Nat := 20

/-- The size of a section header. -/
def sectionEntry : Nat := 40

/-- The size of a symbol and of an auxiliary record. -/
def symbolEntry : Nat := 18

/-- A field of a record. -/
def field (record : List UInt8) (offset size : Nat) : Nat :=
  Bytes.field .little record offset size

/-- The architecture of a machine number. -/
def architecture (machine : Nat) : Architecture :=
  match machine with
  | 0x14c => .i386
  | 0x1c4 => .arm
  | 0x8664 => .x86_64
  | 0xaa64 | 0xa641 => .other "Aarch64"
  | _ => .unknown

/-- What distinguishes an executable from an object here. -/
structure Kind where
  executable : Bool
  /-- What is added to every address. -/
  base : Nat

/-- The kind of an object, which is not placed in memory yet. -/
def Kind.object : Kind := { executable := false, base := 0 }

/-- The symbol table of a file: its records, and the table of long names, which starts
with its own length. -/
structure SymbolTable where
  records : List (List UInt8)
  strings : Strings

/-- The table of a file that has none. -/
def SymbolTable.empty : SymbolTable where
  records := []
  strings := ⟨none⟩

/-- The symbol table that a file header points to. -/
def SymbolTable.parse (file : File) (header : List UInt8) : Except Fault SymbolTable := do
  let offset := field header 8 4
  let count := field header 12 4
  if offset = 0 then return .empty
  let some records := file.table? offset count symbolEntry | throw .coffSymbols
  let start := offset + count * symbolEntry
  let some length := file.record? start 4 | throw .coffStringsMissing
  return { records, strings := ⟨some (start, start + field length 0 4)⟩ }

/-- Where the bytes of a section stand in the file.  An executable stores no more than
the section takes in memory; of an object, a section without initial values stores
nothing. -/
def place? (kind : Kind) (record : List UInt8) : Option (Nat × Nat) :=
  if kind.executable then some (field record 20 4, min (field record 8 4) (field record 16 4))
  else if field record 36 4 / 0x80 % 2 = 1 then none
  else some (field record 20 4, field record 16 4)

/-- A section. -/
def toSection (kind : Kind) (file : File) (record : List UInt8) : Section where
  address := UInt64.ofNat (kind.base + field record 12 4)
  size := UInt64.ofNat (if kind.executable then field record 8 4 else field record 16 4)
  contents := match place? kind record with
    | none => .ok .empty
    | some (start, size) => match file.extent? start size with
      | some bytes => .ok bytes
      | none => .error (if kind.executable then .peSectionData else .coffSectionData)

/-- The name of a symbol: in the record itself, or, where that would start with a zero
byte, at an offset into the table of long names. -/
def name? (file : File) (strings : Strings) (record : List UInt8) : Option String :=
  if field record 0 1 = 0 then strings.name? file (field record 4 4)
  else Bytes.text? ((record.take 8).takeWhile (· != 0))

/-- The number of the section a symbol belongs to, counted from one; the numbers at the
upper end of the range have meanings of their own and stand for none. -/
def sectionNumber (record : List UInt8) : Nat :=
  let number := field record 12 2
  if number < 0xfeff then number else 0

/-- A symbol with the record behind it, if there is one.  The storage class is two for an
external symbol, three for a static one, six for a label and 105 for a weak one; the type
says whether it is a function. -/
def symbol (kind : Kind) (file : File) (headers : List (List UInt8)) (strings : Strings)
    (record : List UInt8) (next? : Option (List UInt8)) : Symbol :=
  let storage := field record 16 1
  let auxiliary := field record 17 1
  let isFunction := field record 14 2 / 16 % 4 == 2
  let number := sectionNumber record
  let home? := if number = 0 then none else headers[number - 1]?
  { name? := name? file strings record
    address := match home? with
      | some home =>
        if storage ∈ [2, 3, 6, 105] then
          UInt64.ofNat (kind.base + field home 12 4 + field record 8 4)
        else 0
      | none => 0
    size := match next? with
      | some next =>
        if storage = 2 ∧ 0 < auxiliary ∧ isFunction then UInt64.ofNat (field next 4 4) else 0
      | none => 0
    isText := isFunction && (storage == 2 || storage == 105 || storage == 3 && auxiliary == 0)
    isDefinition :=
      number != 0 && (storage == 2 || storage == 105 || storage == 3 && auxiliary == 0)
    sectionNumber? := if number = 0 then none else some number }

/-- The symbols of a table, without the auxiliary records between them. -/
def symbols (toSymbol : List UInt8 → Option (List UInt8) → Symbol) :
    List (List UInt8) → List Symbol
  | [] => []
  | record :: rest =>
    toSymbol record rest.head? :: symbols toSymbol (rest.drop (field record 17 1))
termination_by records => records.length
decreasing_by
  simp only [List.length_drop, List.length_cons]
  omega

/-- The section of a number, counted from one. -/
def sectionAt (kind : Kind) (file : File) (headers : List (List UInt8)) (number : Nat) :
    Except Fault Section :=
  if number = 0 then .error .coffSectionIndex
  else match headers[number - 1]? with
    | some record => .ok (toSection kind file record)
    | none => .error .coffSectionIndex

/-- The image of a file whose tables have been found. -/
def image (kind : Kind) (file : File) (header : List UInt8) (headers : List (List UInt8))
    (table : SymbolTable) : Image where
  architecture := architecture (field header 0 2)
  sections := headers.map (toSection kind file)
  sectionAt := sectionAt kind file headers
  symbols := symbols (symbol kind file headers table.strings) table.records
  dynamicSymbols := []

/-- Parses a COFF object: the file header, the section headers behind it, the symbols. -/
def parse (file : File) : Except Fault Image := do
  let some header := file.record? 0 headerSize | throw .coffHeader
  let some headers := file.table? (headerSize + field header 16 2) (field header 2 2) sectionEntry
    | throw .coffSectionHeaders
  let table ← SymbolTable.parse file header
  return image .object file header headers table

end Coff

namespace Pe

open Coff (field)

/-- The two widths of an executable: the size of the fixed part of its optional header, the
mark that starts it, and where the base address and the number of directories stand in it. -/
structure Layout where
  optionalSize : Nat
  mark : Nat
  baseOffset : Nat
  baseSize : Nat
  directoryCount : Nat

/-- Executables for addresses of 32 bits. -/
def layout32 : Layout where
  optionalSize := 96
  mark := 0x10b
  baseOffset := 28
  baseSize := 4
  directoryCount := 92

/-- Executables for addresses of 64 bits. -/
def layout64 : Layout where
  optionalSize := 112
  mark := 0x20b
  baseOffset := 24
  baseSize := 8
  directoryCount := 108

/-- Where the new headers start, if the old header is complete. -/
def headersOffset? (file : File) : Option Nat :=
  (file.record? 0 64).map fun header => field header 60 4

/-- Which layout the mark of the optional header names.  The headers must be complete as
those of the narrower layout and start with their signature. -/
def layout? (file : File) : Option Layout := do
  let offset ← headersOffset? file
  let headers ← file.record? offset (4 + Coff.headerSize + layout32.optionalSize)
  if field headers 0 4 ≠ 0x4550 then none
  else [layout32, layout64].find? fun layout => field headers 24 2 = layout.mark

/-- Parses an executable of a layout. -/
def parse (layout : Layout) (file : File) : Except Fault Image := do
  let some offset := headersOffset? file | throw .peHeaders
  let some headers := file.record? offset (4 + Coff.headerSize + layout.optionalSize)
    | throw .peHeaders
  let header := (headers.drop 4).take Coff.headerSize
  let optional := headers.drop (4 + Coff.headerSize)
  let directories := offset + 4 + Coff.headerSize + layout.optionalSize
  let optionalTotal := field header 16 2
  if optionalTotal < layout.optionalSize then throw .peOptionalTooSmall
  let rest := optionalTotal - layout.optionalSize
  if (file.record? directories rest).isNone then throw .peOptionalSize
  if rest < 8 * field optional layout.directoryCount 4 then throw .peDirectories
  let some sections := file.table? (directories + rest) (field header 2 2) Coff.sectionEntry
    | throw .coffSectionHeaders
  let table := match Coff.SymbolTable.parse file header with
    | .ok table => table
    | .error _ => .empty
  let kind : Coff.Kind :=
    { executable := true, base := field optional layout.baseOffset layout.baseSize }
  return Coff.image kind file header sections table

end Pe
end Object
end OperandSearch
