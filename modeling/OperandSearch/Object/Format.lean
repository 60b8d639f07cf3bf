import OperandSearch.Object.Coff
import OperandSearch.Object.Elf
import OperandSearch.Object.MachO

/-!
# Telling the formats apart

The first bytes of a file say which format it has.  Sixteen bytes must be there for the
question to be asked at all.  Some formats are recognised although none of them can be
parsed: archives, files for several architectures in one, and caches of shared
libraries.  Two more formats are left out, the COFF objects with more than 65535 sections and
XCOFF: their first bytes are not known here.
-/

namespace OperandSearch
namespace Object

/-- A format of object files. -/
inductive Format where
  | elf32
  | elf64
  | pe32
  | pe64
  | machO32 (order : ByteOrder)
  | machO64 (order : ByteOrder)
  | coff
  /-- A known format that cannot be parsed. -/
  | recognised
  deriving DecidableEq, Repr

namespace Format

/-- The first bytes that fix a format on their own. -/
def marks : List (List UInt8 × Format) :=
  [([0x7f, 0x45, 0x4c, 0x46, 1], elf32),
   ([0x7f, 0x45, 0x4c, 0x46, 2], elf64),
   ([0xce, 0xfa, 0xed, 0xfe], machO32 .little),
   ([0xfe, 0xed, 0xfa, 0xce], machO32 .big),
   ([0xcf, 0xfa, 0xed, 0xfe], machO64 .little),
   ([0xfe, 0xed, 0xfa, 0xcf], machO64 .big),
   ([0x64, 0x86], coff),
   ([0x4c, 0x01], coff),
   ([0xc4, 0x01], coff),
   ([0x64, 0xaa], coff),
   ([0x41, 0xa6], coff),
   ([0x21, 0x3c, 0x61, 0x72, 0x63, 0x68, 0x3e, 0x0a], recognised),
   ([0xca, 0xfe, 0xba, 0xbe], recognised),
   ([0xca, 0xfe, 0xba, 0xbf], recognised),
   ([0x64, 0x79, 0x6c, 0x64, 0x5f, 0x76, 0x31, 0x20], recognised)]

/-- The format of a file. -/
def ofFile (file : File) : Except Fault Format :=
  match file.record? 0 16 with
  | none => .error .magicUnreadable
  | some start =>
    if [0x4d, 0x5a].isPrefixOf start then
      match Pe.layout? file with
      | some layout => .ok (if layout.mark = Pe.layout32.mark then pe32 else pe64)
      | none => .error .oldExecutable
    else match marks.find? fun mark => mark.1.isPrefixOf start with
      | some mark => .ok mark.2
      | none => .error .magicUnknown

end Format

/-- Parses an object file of any format. -/
def Image.ofFile : Reader := fun file => do
  match ← Format.ofFile file with
  | .elf32 => Elf.parse Elf.layout32 file
  | .elf64 => Elf.parse Elf.layout64 file
  | .pe32 => Pe.parse Pe.layout32 file
  | .pe64 => Pe.parse Pe.layout64 file
  | .machO32 order => MachO.parse MachO.layout32 order file
  | .machO64 order => MachO.parse MachO.layout64 order file
  | .coff => Coff.parse file
  | .recognised => throw .formatUnsupported

end Object
end OperandSearch
