import OperandSearch.Bytes
import OperandSearch.Machine.Architecture
import OperandSearch.Object.Fault

/-!
# Object files, whatever their format

What the formats have in common once a file has been parsed: an architecture,
sections with addresses and contents, and two tables of symbols, the static one and
the dynamic one.  Parsing finds the sections and symbols; it does not look at what
they say.  So the contents of a section that lie outside the file, or a symbol that
names a section there is none of, are faults that arise only when someone asks.
-/

namespace OperandSearch
namespace Object

/-- A file as it was read. -/
abbrev File := ByteArray

namespace File

/-- The bytes of an extent of the file; none if it does not lie inside.  An empty
extent must start inside the file or at its end. -/
def extent? (file : File) (offset size : Nat) : Option ByteArray :=
  if offset + size ≤ file.size then some (file.extract offset (offset + size)) else none

/-- The bytes of an extent, as a list. -/
def record? (file : File) (offset size : Nat) : Option (List UInt8) :=
  (file.extent? offset size).map fun bytes => bytes.data.toList

/-- The table of `count` records of `size` bytes each at an offset. -/
def table? (file : File) (offset count size : Nat) : Option (List (List UInt8)) :=
  if offset + count * size ≤ file.size then
    (List.range count).mapM fun i => file.record? (offset + i * size) size
  else none

end File

/-- A table of names that end with a zero byte: an extent of the file, or no table at
all. -/
structure Strings where
  extent : Option (Nat × Nat)
  deriving DecidableEq, Repr

/-- The bytes from `start` up to the first zero byte before `stop`. -/
def File.untilZero? (file : File) (start stop : Nat) : Option (List UInt8) :=
  if start < stop then
    match file[start]? with
    | none => none
    | some b => if b = 0 then some [] else (file.untilZero? (start + 1) stop).map (b :: ·)
  else none
termination_by stop - start

/-- The name at an offset of a table.  Its zero byte must stand before the end of the
table, the table must end inside the file, and the name must be well-formed UTF-8. -/
def Strings.name? (strings : Strings) (file : File) (offset : Nat) : Option String :=
  match strings.extent with
  | none => none
  | some (start, stop) =>
    if stop ≤ file.size then (file.untilZero? (start + offset) stop).bind Bytes.text? else none

/-- A section: where it lies in memory, how large it is there, and its bytes in the
file. -/
structure Section where
  address : UInt64
  size : UInt64
  contents : Except Fault ByteArray

namespace Section

/-- The bytes at a range of addresses.  A range that does not lie inside the contents
has none; contents that cannot be read are a fault. -/
def bytesAt (s : Section) (address size : UInt64) : Except Fault (Option (List UInt8)) :=
  match s.contents with
  | .error fault => .error fault
  | .ok contents =>
    if s.address ≤ address then
      .ok (File.record? contents (address.toNat - s.address.toNat) size.toNat)
    else .ok none

end Section

/-- A symbol.  The name is missing if it cannot be read, and the section if the symbol
does not belong to one. -/
structure Symbol where
  name? : Option String
  address : UInt64
  size : UInt64
  isText : Bool
  isDefinition : Bool
  sectionNumber? : Option Nat
  deriving DecidableEq, Repr

/-- A parsed object file. -/
structure Image where
  architecture : Architecture
  /-- The sections, in the order of the file. -/
  sections : List Section
  /-- The section a number in a symbol stands for. -/
  sectionAt : Nat → Except Fault Section
  /-- The static symbols. -/
  symbols : List Symbol
  /-- The dynamic symbols. -/
  dynamicSymbols : List Symbol

/-- A way to parse object files. -/
abbrev Reader := File → Except Fault Image

end Object
end OperandSearch
