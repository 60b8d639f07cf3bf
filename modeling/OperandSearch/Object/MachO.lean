import OperandSearch.Object.Image

/-!
# Mach-O files

The variants with 32-bit and with 64-bit words, in either byte order.  Behind the header
stand load commands, each with its own length; a segment command lists sections.  Symbols of
this format have no size, and what has no size is no function, so the symbol table is
checked and not read any further.

A list of commands that is cut short or damaged ends where it stops making sense.  A
command that is complete and says something impossible is a fault.
-/

namespace OperandSearch
namespace Object
namespace MachO

/-- The size of a symbol table command. -/
def symbolCommandSize : Nat := 24

/-- The kind of a symbol table command. -/
def symbolCommand : Nat := 0x02

/-- The sizes of the records of a variant, and the places of those fields that are not the
same in both. -/
structure Layout where
  headerSize : Nat
  /-- The kind of a segment command. -/
  segmentCommand : Nat
  /-- The size of its fixed part. -/
  segmentSize : Nat
  sectionCount : Nat
  sectionEntry : Nat
  wordSize : Nat
  sectionStart : Nat
  sectionFlags : Nat
  symbolEntry : Nat

/-- The variant with 32-bit words. -/
def layout32 : Layout where
  headerSize := 28
  segmentCommand := 0x01
  segmentSize := 56
  sectionCount := 48
  sectionEntry := 68
  wordSize := 4
  sectionStart := 40
  sectionFlags := 56
  symbolEntry := 12

/-- The variant with 64-bit words. -/
def layout64 : Layout where
  headerSize := 32
  segmentCommand := 0x19
  segmentSize := 72
  sectionCount := 64
  sectionEntry := 80
  wordSize := 8
  sectionStart := 48
  sectionFlags := 64
  symbolEntry := 16

/-- What the records of a file are read by. -/
structure Form where
  layout : Layout
  order : ByteOrder

/-- A field of a record. -/
def Form.field (form : Form) (record : List UInt8) (offset size : Nat) : Nat :=
  Bytes.field form.order record offset size

/-- The architecture of a machine number. -/
def architecture (machine : Nat) : Architecture :=
  match machine with
  | 7 => .i386
  | 12 => .arm
  | 0x1000007 => .x86_64
  | 0x100000c => .other "Aarch64"
  | _ => .unknown

namespace Form

/-- At most `count` commands at the start of a sequence of bytes.  A command says its own
length, which covers at least its kind and that length. -/
def commands (form : Form) : Nat → List UInt8 → List (List UInt8)
  | 0, _ => []
  | count + 1, bytes =>
    let size := form.field bytes 4 4
    if 8 ≤ bytes.length ∧ 8 ≤ size ∧ size ≤ bytes.length then
      bytes.take size :: form.commands count (bytes.drop size)
    else []

/-- Whether the low byte of a section's flags says that it only takes memory. -/
def takesMemoryOnly (form : Form) (record : List UInt8) : Bool :=
  form.field record form.layout.sectionFlags 4 % 256 ∈ [1, 12, 18]

/-- The address of a section. -/
def sectionAddress (form : Form) (record : List UInt8) : Nat :=
  form.field record 32 form.layout.wordSize

/-- The size of a section. -/
def sectionSize (form : Form) (record : List UInt8) : Nat :=
  form.field record (32 + form.layout.wordSize) form.layout.wordSize

/-- A section. -/
def toSection (form : Form) (file : File) (record : List UInt8) : Section where
  address := UInt64.ofNat (form.sectionAddress record)
  size := UInt64.ofNat (form.sectionSize record)
  contents :=
    if form.takesMemoryOnly record then .ok .empty
    else match file.extent? (form.field record form.layout.sectionStart 4)
        (form.sectionSize record) with
      | some bytes => .ok bytes
      | none => .error .machSections

/-- The section records of a segment command, or of any other command none.  A symbol table
command is checked: it is complete and the table lies inside the file. -/
def sectionRecords (form : Form) (file : File) (command : List UInt8) :
    Except Fault (List (List UInt8)) := do
  let kind := form.field command 0 4
  if kind = form.layout.segmentCommand then
    if command.length < form.layout.segmentSize then throw .machCommandSize
    let table := command.drop form.layout.segmentSize
    let count := form.field command form.layout.sectionCount 4
    if table.length < count * form.layout.sectionEntry then throw .machSections
    return (Bytes.records form.layout.sectionEntry table).take count
  if kind = symbolCommand then
    if command.length < symbolCommandSize then throw .machCommandSize
    let size := form.field command 12 4 * form.layout.symbolEntry
    if (file.record? (form.field command 8 4) size).isNone then throw .machSymbols
  return []

end Form

/-- Parses a Mach-O file of a variant. -/
def parse (layout : Layout) (order : ByteOrder) (file : File) : Except Fault Image := do
  let form : Form := { layout, order }
  let some header := file.record? 0 layout.headerSize | throw .machHeader
  let bytes := (file.record? layout.headerSize (form.field header 20 4)).getD []
  let records ← (form.commands (form.field header 16 4) bytes).mapM (form.sectionRecords file)
  let sections := records.flatten.map (form.toSection file)
  return {
    architecture := architecture (form.field header 4 4)
    sections
    sectionAt := fun number => match number, sections[number - 1]? with
      | _ + 1, some s => .ok s
      | _, _ => .error .machSectionIndex
    symbols := []
    dynamicSymbols := [] }

end MachO
end Object
end OperandSearch
