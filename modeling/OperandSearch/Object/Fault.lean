/-!
# Why a file is no usable object file

Every reason for which an object file, or a part of it that is asked for later, can
be refused.  The checks of each format are made in a fixed order, so a file with two
faults always gives the same one of them.
-/

namespace OperandSearch
namespace Object

/-- A fault of an object file. -/
inductive Fault where
  /-- The file is too short to tell its kind. -/
  | magicUnreadable
  | magicUnknown
  /-- The file starts like a program for an older system and is nothing newer. -/
  | oldExecutable
  /-- The kind is known, and not read by this library. -/
  | formatUnsupported
  | elfHeader
  | elfUnsupported
  | elfProgramEntrySize
  | elfProgramHeaders
  | elfProgramCountMissing
  | elfSectionEntrySize
  | elfFirstSection
  | elfSectionHeaders
  | elfSectionNamesMissing
  | elfSectionNamesIndex
  | elfSectionNamesSize
  | elfSymbolData
  | elfSymbolSections
  | elfStringType
  | elfStringExtent
  | elfSectionIndex
  | elfSectionData
  | peHeaders
  | peOptionalTooSmall
  | peOptionalSize
  | peDirectories
  | peSectionData
  | coffHeader
  | coffSectionHeaders
  | coffSectionIndex
  | coffSectionData
  | coffSymbols
  | coffStringsMissing
  | machHeader
  | machCommandSize
  | machSections
  | machSymbols
  | machSectionIndex
  deriving DecidableEq, Repr

/-- The wording of a fault. -/
def Fault.message : Fault → String
  | magicUnreadable => "Could not read file magic"
  | magicUnknown => "Unknown file magic"
  | oldExecutable => "Unknown MS-DOS file"
  | formatUnsupported => "Unsupported file format"
  | elfHeader => "Invalid ELF header size or alignment"
  | elfUnsupported => "Unsupported ELF header"
  | elfProgramEntrySize => "Invalid ELF program header entry size"
  | elfProgramHeaders => "Invalid ELF program header size or alignment"
  | elfProgramCountMissing => "Missing ELF section headers for e_phnum overflow"
  | elfSectionEntrySize => "Invalid ELF section header entry size"
  | elfFirstSection => "Invalid ELF section header offset or size"
  | elfSectionHeaders => "Invalid ELF section header offset/size/alignment"
  | elfSectionNamesMissing => "Missing ELF e_shstrndx"
  | elfSectionNamesIndex => "Invalid ELF e_shstrndx"
  | elfSectionNamesSize => "Invalid ELF shstrtab size"
  | elfSymbolData => "Invalid ELF symbol table data"
  | elfSymbolSections => "Invalid ELF symtab_shndx data"
  | elfStringType => "Invalid ELF string section type"
  | elfStringExtent => "Invalid ELF string section offset or size"
  | elfSectionIndex => "Invalid ELF section index"
  | elfSectionData => "Invalid ELF section size or offset"
  | peHeaders => "Invalid PE headers offset or size"
  | peOptionalTooSmall => "PE optional header size is too small"
  | peOptionalSize => "Invalid PE optional header size"
  | peDirectories => "Invalid PE number of RVA and sizes"
  | peSectionData => "Invalid PE section offset or size"
  | coffHeader => "Invalid COFF file header size or alignment"
  | coffSectionHeaders => "Invalid COFF/PE section headers"
  | coffSectionIndex => "Invalid COFF/PE section index"
  | coffSectionData => "Invalid COFF section offset or size"
  | coffSymbols => "Invalid COFF symbol table offset or size"
  | coffStringsMissing => "Missing COFF string table"
  | machHeader => "Invalid Mach-O header size or alignment"
  | machCommandSize => "Invalid Mach-O command size"
  | machSections => "Invalid Mach-O number of sections"
  | machSymbols => "Invalid Mach-O symbol table offset or size"
  | machSectionIndex => "Invalid Mach-O section index"

end Object
end OperandSearch
