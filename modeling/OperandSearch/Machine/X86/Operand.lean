import OperandSearch.Machine.Encoding

/-!
# Operands of x86

An instruction starts with bytes that set how the rest is read, followed by an opcode.
Most opcodes are followed by a byte that selects a register and a place, where a place is
a register or memory; memory takes further bytes for an index and a displacement.

The 32-bit mode has eight registers.  In the 64-bit mode a byte from `40` to `4f` in front
of the opcode widens the operands to 64 bits and adds eight registers.
-/

namespace OperandSearch
namespace X86

/-! ## Registers -/

/-- The width of an address. -/
inductive Mode where
  | bits32
  | bits64
  deriving DecidableEq, Repr

/-- How many bits an address has. -/
def Mode.bits : Mode → Nat
  | bits32 => 32
  | bits64 => 64

/-- The width of an operand. -/
inductive Width where
  | byte
  | word
  | double
  | quad
  deriving DecidableEq, Repr

namespace Width

/-- How many bytes an operand has. -/
def size : Width → Nat
  | byte => 1
  | word => 2
  | double => 4
  | quad => 8

/-- The word for memory of a width. -/
def keyword : Width → String
  | byte => "byte"
  | word => "word"
  | double => "dword"
  | quad => "qword"

/-- The names of the first eight registers.  In an instruction with an extending byte the
last four of a single byte are the low ends of wider registers. -/
def registers (extended : Bool) : Width → List String
  | byte =>
    if extended then ["al", "cl", "dl", "bl", "spl", "bpl", "sil", "dil"]
    else ["al", "cl", "dl", "bl", "ah", "ch", "dh", "bh"]
  | word => ["ax", "cx", "dx", "bx", "sp", "bp", "si", "di"]
  | double => ["eax", "ecx", "edx", "ebx", "esp", "ebp", "esi", "edi"]
  | quad => ["rax", "rcx", "rdx", "rbx", "rsp", "rbp", "rsi", "rdi"]

/-- What ends the names of the registers that the extending byte adds. -/
def ending : Width → String
  | byte => "b"
  | word => "w"
  | double => "d"
  | quad => ""

/-- The name of a register. -/
def register (extended : Bool) (width : Width) (r : Nat) : String :=
  if r < 8 then (width.registers extended).getD r ""
  else "r" ++ Numeral.decimal r ++ width.ending

end Width

/-- The width of a whole address. -/
def Mode.width : Mode → Width
  | bits32 => .double
  | bits64 => .quad

/-- The name of a register as wide as an address. -/
def Mode.register (mode : Mode) (r : Nat) : String :=
  mode.width.register false r

/-- The name that stands for an index that is zero. -/
def Mode.zeroIndex : Mode → String
  | bits32 => "eiz"
  | bits64 => "riz"

/-! ## Numbers among the bytes -/

/-- The unsigned number of `size` bytes at an offset. -/
def unsignedAt (bytes : List UInt8) (offset size : Nat) : Nat :=
  Bytes.field .little bytes offset size

/-- The signed number of `size` bytes at an offset. -/
def signedAt (bytes : List UInt8) (offset size : Nat) : Int :=
  Bytes.signed (8 * size) (unsignedAt bytes offset size)

/-! ## Memory -/

/-- The text of an address: a sum of registers, an index with its factor, and a
displacement.  A displacement alone is written as an address. -/
def memory (mode : Mode) (base? : Option String) (index? : Option (String × Nat))
    (displacement : Int) : String :=
  let index? := index?.map fun index =>
    if index.2 = 1 then index.1 else index.1 ++ "*" ++ Numeral.decimal index.2
  let magnitude := Operand.natural displacement.natAbs
  let text := match base?.toList ++ index?.toList with
    | [] => Operand.natural (displacement % (1 <<< mode.bits : Nat)).toNat
    | terms =>
      let sum := " + ".intercalate terms
      if displacement < 0 then sum ++ " - " ++ magnitude
      else if displacement = 0 then sum
      else sum ++ " + " ++ magnitude
  "[" ++ text ++ "]"

/-- Where an operand is. -/
inductive Place where
  | register (r : Nat)
  /-- Memory at an address, which is a text. -/
  | memory (address : String)
  deriving DecidableEq, Repr

/-! ## The start of an instruction -/

/-- What is known of an instruction when its opcode has been read. -/
structure Head where
  mode : Mode
  /-- The address of the instruction. -/
  address : UInt64
  /-- How many bytes have been read. -/
  size : Nat
  /-- The low half of the extending byte, if there is one. -/
  extension? : Option Nat
  /-- Operands of 32 bits have 16 bits instead. -/
  isHalved : Bool
  /-- The bytes behind the opcode. -/
  rest : List UInt8

namespace Head

/-- A bit of the extending byte: 3 widens the operands, and 2, 1 and 0 move a selected
register, an index, and a base or place to the added registers. -/
def bit (h : Head) (n : Nat) : Nat :=
  (h.extension?.getD 0 >>> n) % 2

/-- The width of operands that are longer than a byte. -/
def width (h : Head) : Width :=
  if h.bit 3 = 1 then .quad else if h.isHalved then .word else .double

/-- The width of operands of an opcode whose lowest bit tells bytes from longer operands. -/
def widthOf (h : Head) (opcode : Nat) : Width :=
  if opcode % 2 = 0 then .byte else h.width

/-- The width of what is put on the stack. -/
def stackWidth (h : Head) : Width :=
  if h.isHalved ∧ h.bit 3 = 0 then .word else h.mode.width

/-- The name of a register. -/
def register (h : Head) (width : Width) (r : Nat) : String :=
  width.register h.extension?.isSome r

/-- The text of a place. -/
def place (h : Head) (width : Width) : Place → String
  | .register r => h.register width r
  | .memory address => width.keyword ++ " ptr " ++ address

/-! ## Selected operands -/

/-- What the byte behind an opcode selects. -/
structure Selection where
  /-- How many bytes say it. -/
  size : Nat
  /-- The three bits for a register or for an operation. -/
  field : Nat
  place : Place

/-- The bytes and the value of a displacement of one of three kinds: none, a byte, or four
bytes. -/
def displacement (h : Head) (offset kind : Nat) : Nat × Int :=
  match kind with
  | 0 => (0, 0)
  | 1 => (1, signedAt h.rest offset 1)
  | _ => (4, signedAt h.rest offset 4)

/-- A place in memory with an index, which a second byte describes.  No index is written
where there is none, unless the place could have been described without that byte. -/
def indexed (h : Head) (kind : Nat) : Nat × Place :=
  let second := unsignedAt h.rest 1 1
  let scale := 1 <<< (second / 64)
  let index := second / 8 % 8 + 8 * h.bit 1
  let hasBase := kind ≠ 0 ∨ second % 8 ≠ 5
  let base? := if hasBase then some (h.mode.register (second % 8 + 8 * h.bit 0)) else none
  let isNeeded := if hasBase then second % 8 = 4 else h.mode = .bits64
  let index? :=
    if index ≠ 4 then some (h.mode.register index, scale)
    else if scale = 1 ∧ isNeeded then none
    else some (h.mode.zeroIndex, scale)
  let (size, displacement) := h.displacement 2 (if hasBase then kind else 2)
  (2 + size, .memory (memory h.mode base? index? displacement))

/-- What the byte behind the opcode selects. -/
def selection (h : Head) : Selection :=
  let first := unsignedAt h.rest 0 1
  let kind := first / 64
  let (size, place) :=
    if kind = 3 then (1, .register (first % 8 + 8 * h.bit 0))
    else if first % 8 = 4 then h.indexed kind
    else if kind = 0 ∧ first % 8 = 5 then
      let base? := match h.mode with
        | .bits32 => none
        | .bits64 => some "rip"
      (5, .memory (memory h.mode base? none (signedAt h.rest 1 4)))
    else
      let (size, displacement) := h.displacement 1 kind
      (1 + size,
        .memory (memory h.mode (some (h.mode.register (first % 8 + 8 * h.bit 0))) none
          displacement))
  { size, field := first / 8 % 8, place }

/-- The text of the selected register. -/
def selected (h : Head) (width : Width) (selection : Selection) : String :=
  h.register width (selection.field + 8 * h.bit 2)

/-! ## Immediates and targets -/

/-- How many bytes an immediate of a width has. -/
def immediateSize : Width → Nat
  | .byte => 1
  | .word => 2
  | .double | .quad => 4

/-- An immediate of a width: only one that has to be widened has a sign. -/
def immediate (h : Head) (width : Width) (offset : Nat) : Int :=
  match width with
  | .quad => signedAt h.rest offset 4
  | _ => unsignedAt h.rest offset (immediateSize width)

/-- The text of a number as the bits of an operand. -/
def bits (width : Width) (n : Int) : String :=
  Operand.natural (n % (1 <<< (8 * width.size) : Nat)).toNat

/-- The target of a jump: the address behind it, moved by the signed number of `size` bytes
that ends it. -/
def target (h : Head) (size : Nat) : String :=
  let next : Int := (h.address.toNat + h.size + size : Nat)
  Operand.natural ((next + signedAt h.rest 0 size) % (1 <<< h.mode.bits : Nat)).toNat

/-! ## Results -/

/-- An instruction with so many bytes behind its opcode. -/
def encoding (h : Head) (size : Nat) (mnemonic : String) (operands : List String) :
    Option Encoding :=
  some { size := h.size + size, mnemonic, operands := Operand.list operands }

end Head
end X86
end OperandSearch
