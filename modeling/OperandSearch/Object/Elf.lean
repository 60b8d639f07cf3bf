import OperandSearch.Object.Image

/-!
# ELF files

The two classes of ELF, with 32-bit and with 64-bit words, in either byte order.  A
class fixes the sizes of the records and the places of their fields, so it is one
value of `Layout` and the parser is written once.

The checks are made in this order: the header, the program headers, the section
headers, the section of section names, the static symbol table, the dynamic one.
Section number zero is a placeholder: it is no section, but its fields hold the
counts that are too large for the header.
-/

namespace OperandSearch
namespace Object
namespace Elf

/-- Where a field stands in a record: its offset and its size. -/
structure Slot where
  offset : Nat
  size : Nat

/-- The sizes and fields of the records of a class. -/
structure Layout where
  wide : Bool
  headerSize : Nat
  programEntry : Nat
  sectionEntry : Nat
  symbolEntry : Nat
  /-- Fields of the header. -/
  programOffset : Slot
  sectionOffset : Slot
  programEntrySize : Slot
  programCount : Slot
  sectionEntrySize : Slot
  sectionCount : Slot
  namesIndex : Slot
  /-- Fields of a section header. -/
  sectionType : Slot
  sectionAddress : Slot
  sectionStart : Slot
  sectionSize : Slot
  sectionLink : Slot
  sectionInfo : Slot
  /-- Fields of a symbol. -/
  symbolName : Slot
  symbolInfo : Slot
  symbolSection : Slot
  symbolValue : Slot
  symbolSize : Slot

/-- The class with 32-bit words. -/
def layout32 : Layout where
  wide := false
  headerSize := 52
  programEntry := 32
  sectionEntry := 40
  symbolEntry := 16
  programOffset := ⟨28, 4⟩
  sectionOffset := ⟨32, 4⟩
  programEntrySize := ⟨42, 2⟩
  programCount := ⟨44, 2⟩
  sectionEntrySize := ⟨46, 2⟩
  sectionCount := ⟨48, 2⟩
  namesIndex := ⟨50, 2⟩
  sectionType := ⟨4, 4⟩
  sectionAddress := ⟨12, 4⟩
  sectionStart := ⟨16, 4⟩
  sectionSize := ⟨20, 4⟩
  sectionLink := ⟨24, 4⟩
  sectionInfo := ⟨28, 4⟩
  symbolName := ⟨0, 4⟩
  symbolValue := ⟨4, 4⟩
  symbolSize := ⟨8, 4⟩
  symbolInfo := ⟨12, 1⟩
  symbolSection := ⟨14, 2⟩

/-- The class with 64-bit words. -/
def layout64 : Layout where
  wide := true
  headerSize := 64
  programEntry := 56
  sectionEntry := 64
  symbolEntry := 24
  programOffset := ⟨32, 8⟩
  sectionOffset := ⟨40, 8⟩
  programEntrySize := ⟨54, 2⟩
  programCount := ⟨56, 2⟩
  sectionEntrySize := ⟨58, 2⟩
  sectionCount := ⟨60, 2⟩
  namesIndex := ⟨62, 2⟩
  sectionType := ⟨4, 4⟩
  sectionAddress := ⟨16, 8⟩
  sectionStart := ⟨24, 8⟩
  sectionSize := ⟨32, 8⟩
  sectionLink := ⟨40, 4⟩
  sectionInfo := ⟨44, 4⟩
  symbolName := ⟨0, 4⟩
  symbolInfo := ⟨4, 1⟩
  symbolSection := ⟨6, 2⟩
  symbolValue := ⟨8, 8⟩
  symbolSize := ⟨16, 8⟩

/-- The section types this library looks at. -/
def typeSymbols : Nat := 2

@[inherit_doc typeSymbols]
def typeStrings : Nat := 3

@[inherit_doc typeSymbols]
def typeNoBits : Nat := 8

@[inherit_doc typeSymbols]
def typeDynamicSymbols : Nat := 11

@[inherit_doc typeSymbols]
def typeSymbolSections : Nat := 18

/-- The architecture of a machine number; some numbers mean one only in one class. -/
def architecture (wide : Bool) (machine : Nat) : Architecture :=
  match machine, wide with
  | 3, _ => .i386
  | 8, false => .other "Mips"
  | 8, true => .other "Mips64"
  | 20, _ => .other "PowerPc"
  | 21, _ => .other "PowerPc64"
  | 22, true => .other "S390x"
  | 40, _ => .arm
  | 43, true => .other "Sparc64"
  | 62, true => .x86_64
  | 62, false => .other "X86_64_X32"
  | 183, true => .other "Aarch64"
  | 183, false => .other "Aarch64_Ilp32"
  | 243, true => .other "Riscv64"
  | 243, false => .other "Riscv32"
  | _, _ => .unknown

/-- A file whose header has been accepted. -/
structure Header where
  file : File
  layout : Layout
  order : ByteOrder
  bytes : List UInt8

namespace Header

/-- A field of a record of this file. -/
def field (h : Header) (record : List UInt8) (slot : Slot) : Nat :=
  Bytes.field h.order record slot.offset slot.size

/-- A field of the header itself. -/
def own (h : Header) (slot : Slot) : Nat :=
  h.field h.bytes slot

/-- Accepts the header of a file of a class: it is complete, the byte order is one of
the two, and the version is the first. -/
def parse (layout : Layout) (file : File) : Except Fault Header := do
  let some bytes := file.record? 0 layout.headerSize | throw .elfHeader
  if Bytes.field .little bytes 6 1 ≠ 1 then throw .elfUnsupported
  match Bytes.field .little bytes 5 1 with
  | 1 => return { file, layout, order := .little, bytes }
  | 2 => return { file, layout, order := .big, bytes }
  | _ => throw .elfUnsupported

/-- Section number zero, if there are section headers at all. -/
def placeholder? (h : Header) : Except Fault (Option (List UInt8)) := do
  let offset := h.own h.layout.sectionOffset
  if offset = 0 then return none
  if h.own h.layout.sectionEntrySize ≠ h.layout.sectionEntry then throw .elfSectionEntrySize
  match h.file.record? offset h.layout.sectionEntry with
  | some record => return some record
  | none => throw .elfFirstSection

/-- How many program headers there are.  A count too large for the header stands in
section number zero. -/
def programTotal (h : Header) : Except Fault Nat := do
  let count := h.own h.layout.programCount
  if count < 0xffff then return count
  match ← h.placeholder? with
  | some record => return h.field record h.layout.sectionInfo
  | none => throw .elfProgramCountMissing

/-- Checks that the program headers lie inside the file. -/
def checkPrograms (h : Header) : Except Fault Unit := do
  let offset := h.own h.layout.programOffset
  if offset = 0 then return
  let count ← h.programTotal
  if count = 0 then return
  if h.own h.layout.programEntrySize ≠ h.layout.programEntry then throw .elfProgramEntrySize
  if (h.file.record? offset (count * h.layout.programEntry)).isNone then throw .elfProgramHeaders

/-- How many section headers there are, section number zero included.  A count of zero
in the header means that the count stands in section number zero. -/
def sectionTotal (h : Header) : Except Fault Nat := do
  let count := h.own h.layout.sectionCount
  if 0 < count then return count
  match ← h.placeholder? with
  | some record => return h.field record h.layout.sectionSize
  | none => return 0

/-- The section headers, section number zero included. -/
def sectionHeaders (h : Header) : Except Fault (List (List UInt8)) := do
  let offset := h.own h.layout.sectionOffset
  if offset = 0 then return []
  let count ← h.sectionTotal
  if count = 0 then return []
  if h.own h.layout.sectionEntrySize ≠ h.layout.sectionEntry then throw .elfSectionEntrySize
  match h.file.table? offset count h.layout.sectionEntry with
  | some headers => return headers
  | none => throw .elfSectionHeaders

/-- Where the bytes of a section stand in the file; a section that only takes memory
has none. -/
def place? (h : Header) (record : List UInt8) : Option (Nat × Nat) :=
  if h.field record h.layout.sectionType = typeNoBits then none
  else some (h.field record h.layout.sectionStart, h.field record h.layout.sectionSize)

/-- Checks that one of the sections is said to hold the names of sections. -/
def checkNames (h : Header) (headers : List (List UInt8)) : Except Fault Unit := do
  if headers.isEmpty then return
  let index ←
    if h.own h.layout.namesIndex ≠ 0xffff then pure (h.own h.layout.namesIndex)
    else match ← h.placeholder? with
      | some record => pure (h.field record h.layout.sectionLink)
      | none => throw .elfSectionNamesMissing
  if index = 0 then throw .elfSectionNamesMissing
  let some record := headers[index]? | throw .elfSectionNamesIndex
  if let some (start, size) := h.place? record then
    if start + size ≥ UInt64.size then throw .elfSectionNamesSize

/-- The bytes of a section, if they lie inside the file. -/
def contents? (h : Header) (record : List UInt8) : Option ByteArray :=
  match h.place? record with
  | some (start, size) => h.file.extent? start size
  | none => some .empty

/-- The table of names a section number stands for; number zero stands for none. -/
def strings (h : Header) (headers : List (List UInt8)) (index : Nat) : Except Fault Strings := do
  if index = 0 then return ⟨none⟩
  let some record := headers[index]? | throw .elfSectionIndex
  if h.field record h.layout.sectionType ≠ typeStrings then throw .elfStringType
  let start := h.field record h.layout.sectionStart
  let size := h.field record h.layout.sectionSize
  if start + size ≥ UInt64.size then throw .elfStringExtent
  return ⟨some (start, start + size)⟩

/-- The section numbers that are too large for the symbols of a section, in the order of the
symbols.  They stand in a section of their own, which links to the section of the symbols. -/
def largeNumbers (h : Header) (headers : List (List UInt8)) (index : Nat) :
    Except Fault (Array Nat) :=
  headers.foldlM (fun numbers record =>
    if h.field record h.layout.sectionType = typeSymbolSections ∧
        h.field record h.layout.sectionLink = index then
      match h.contents? record with
      | some table =>
        if table.size % 4 = 0 then
          .ok ((Bytes.records 4 table.data.toList).map fun number =>
            h.field number ⟨0, 4⟩).toArray
        else .error .elfSymbolSections
      | none => .error .elfSymbolSections
    else .ok numbers) #[]

/-- A symbol.  Its lowest four bits of information are the type: two is a function, ten
a function that is chosen at run time.  Section numbers from `ff00` on have meanings of
their own and stand for no section, except that `ffff` counts as a definition and says that
the number is too large to stand here. -/
def symbol (h : Header) (strings : Strings) (record : List UInt8) (large? : Option Nat) :
    Symbol :=
  let type := h.field record h.layout.symbolInfo % 16
  let index := h.field record h.layout.symbolSection
  { name? := strings.name? h.file (h.field record h.layout.symbolName)
    address := UInt64.ofNat (h.field record h.layout.symbolValue)
    size := UInt64.ofNat (h.field record h.layout.symbolSize)
    isText := type == 2 || type == 10
    isDefinition := index != 0 && (index < 0xff00 || index == 0xffff) && type == 2
    sectionNumber? :=
      if index = 0xffff then large?.filter (· ≠ 0)
      else if index = 0 ∨ 0xff00 ≤ index then none
      else some index }

/-- The symbols of the first section of a type, without the first symbol, which stands
for none.  The section must hold whole entries only. -/
def symbols (h : Header) (headers : List (List UInt8)) (type : Nat) :
    Except Fault (List Symbol) := do
  match headers.zipIdx.find? fun entry => h.field entry.1 h.layout.sectionType = type with
  | none => return []
  | some (record, index) =>
    let some table := h.contents? record | throw .elfSymbolData
    if table.size % h.layout.symbolEntry ≠ 0 then throw .elfSymbolData
    let strings ← h.strings headers (h.field record h.layout.sectionLink)
    let large ← h.largeNumbers headers index
    return ((Bytes.records h.layout.symbolEntry table.data.toList).zipIdx.drop 1).map
      fun (record, number) => h.symbol strings record large[number]?

/-- A section. -/
def toSection (h : Header) (record : List UInt8) : Section where
  address := UInt64.ofNat (h.field record h.layout.sectionAddress)
  size := UInt64.ofNat (h.field record h.layout.sectionSize)
  contents := match h.contents? record with
    | some bytes => .ok bytes
    | none => .error .elfSectionData

/-- The section of a number; number zero is none. -/
def sectionAt (h : Header) (headers : List (List UInt8)) (index : Nat) : Except Fault Section :=
  if index = 0 then .error .elfSectionIndex
  else match headers[index]? with
    | some record => .ok (h.toSection record)
    | none => .error .elfSectionIndex

end Header

/-- Parses an ELF file of a class. -/
def parse (layout : Layout) (file : File) : Except Fault Image := do
  let h ← Header.parse layout file
  h.checkPrograms
  let headers ← h.sectionHeaders
  h.checkNames headers
  let symbols ← h.symbols headers typeSymbols
  let dynamicSymbols ← h.symbols headers typeDynamicSymbols
  return {
    architecture := architecture layout.wide (h.field h.bytes ⟨18, 2⟩)
    sections := (headers.drop 1).map h.toSection
    sectionAt := h.sectionAt headers
    symbols
    dynamicSymbols }

end Elf
end Object
end OperandSearch
