import OperandSearch.Machine.X86.Operand

/-!
# Decoding x86

The instructions of the 32-bit and the 64-bit mode on general registers, memory and the
stack.  An opcode of one byte belongs to a family by its upper half, and each family has a
function here; the byte `0f` leads to a second table.  A few opcodes exist in one of the
modes only.  A jump is described by its target, which is computed modulo the width of an
address.

Not decoded are instructions on floating-point numbers and vectors, and those behind bytes
that repeat them, lock the bus or choose a segment.
-/

namespace OperandSearch
namespace X86

/-! ## Names -/

/-- The operations on two operands. -/
def operation (n : Nat) : String :=
  ["add", "or", "adc", "sbb", "and", "sub", "xor", "cmp"].getD n ""

/-- Whether an operation works on bits, not on numbers. -/
def isBitwise (n : Nat) : Bool :=
  n == 1 || n == 4 || n == 6

/-- The operations that move the bits of an operand. -/
def shift? (n : Nat) : Option String :=
  if n = 6 then none else ["rol", "ror", "rcl", "rcr", "shl", "shr", "", "sar"][n]?

/-- The conditions of jumps and moves. -/
def condition (n : Nat) : String :=
  ["o", "no", "b", "ae", "e", "ne", "be", "a", "s", "ns", "p", "np", "l", "ge", "le", "g"].getD n ""

/-- The segment registers. -/
def segment? (n : Nat) : Option String :=
  ["es", "cs", "ss", "ds", "fs", "gs"][n]?

namespace Head

/-- An instruction without operands. -/
def bare (h : Head) (mnemonic : String) : Option Encoding :=
  h.encoding 0 mnemonic []

/-- An instruction that one of the modes lacks. -/
def onlyIn (h : Head) (mode : Mode) (found : Option Encoding) : Option Encoding :=
  if h.mode = mode then found else none

/-- A jump over a signed number of `size` bytes. -/
def jump (h : Head) (mnemonic : String) (size : Nat) : Option Encoding :=
  if h.isHalved then none else h.encoding size mnemonic [h.target size]

/-- An instruction on the selected place and register. -/
def placeAndRegister (h : Head) (mnemonic : String) (width : Width) : Option Encoding :=
  let s := h.selection
  h.encoding s.size mnemonic [h.place width s.place, h.selected width s]

/-- An instruction on the selected register and a place of another width. -/
def registerAndPlace (h : Head) (mnemonic : String) (width source : Width) : Option Encoding :=
  let s := h.selection
  h.encoding s.size mnemonic [h.selected width s, h.place source s.place]

/-- An instruction on the selected place alone. -/
def onPlace (h : Head) (mnemonic : String) (width : Width) : Option Encoding :=
  let s := h.selection
  h.encoding s.size mnemonic [h.place width s.place]

/-- An operation with an immediate as its second operand. -/
def operationText (n : Nat) (width : Width) (immediate : Int) : String :=
  if isBitwise n then bits width immediate else Operand.number immediate

/-! ## The families of opcodes -/

/-- Opcodes up to `3f`: operations on two operands in six forms each, and short ones of the
32-bit mode. -/
def decodeOperation (h : Head) (opcode : Nat) : Option Encoding :=
  let n := opcode / 8
  match opcode % 8 with
  | 0 | 1 => h.placeAndRegister (operation n) (h.widthOf opcode)
  | 2 | 3 => h.registerAndPlace (operation n) (h.widthOf opcode) (h.widthOf opcode)
  | 4 | 5 =>
    let width := h.widthOf opcode
    h.encoding (immediateSize width) (operation n)
      [width.register false 0, operationText n width (h.immediate width 0)]
  | low =>
    h.onlyIn .bits32 <|
      if n < 4 then
        (segment? n).bind fun name => h.encoding 0 (if low = 6 then "push" else "pop") [name]
      else if low = 7 then h.bare (["daa", "das", "aaa", "aas"].getD (n - 4) "")
      else none

/-- Opcodes from `40`: steps by one, in the 32-bit mode. -/
def decodeStep (h : Head) (low : Nat) : Option Encoding :=
  h.onlyIn .bits32 <|
    h.encoding 0 (if low < 8 then "inc" else "dec") [h.register h.width (low % 8)]

/-- Opcodes from `50`: registers to and from the stack. -/
def decodeStack (h : Head) (low : Nat) : Option Encoding :=
  h.encoding 0 (if low < 8 then "push" else "pop")
    [h.register h.stackWidth (low % 8 + 8 * h.bit 0)]

/-- Opcodes from `60`. -/
def decodeFrom60 (h : Head) (low : Nat) : Option Encoding :=
  match low with
  | 0x0 => h.onlyIn .bits32 (h.bare "pushal")
  | 0x1 => h.onlyIn .bits32 (h.bare "popal")
  | 0x3 =>
    match h.mode with
    | .bits32 => h.placeAndRegister "arpl" .word
    | .bits64 => if h.bit 3 = 1 then h.registerAndPlace "movsxd" .quad .double else none
  | 0x8 =>
    let value : Int := match h.mode with
      | .bits32 => unsignedAt h.rest 0 4
      | .bits64 => signedAt h.rest 0 4
    if h.isHalved then none else h.encoding 4 "push" [Operand.number value]
  | 0xa => h.encoding 1 "push" [Operand.number (signedAt h.rest 0 1)]
  | 0x9 | 0xb =>
    let s := h.selection
    let (size, value) :=
      if low = 0x9 then (immediateSize h.width, h.immediate h.width s.size)
      else (1, signedAt h.rest s.size 1)
    h.encoding (s.size + size) "imul"
      [h.selected h.width s, h.place h.width s.place, Operand.number value]
  | _ => none

/-- Opcodes from `80`: immediates to places, and moves. -/
def decodeFrom80 (h : Head) (low : Nat) : Option Encoding :=
  let s := h.selection
  let width := h.widthOf low
  match low with
  | 0x0 | 0x1 =>
    h.encoding (s.size + immediateSize width) (operation s.field)
      [h.place width s.place, operationText s.field width (h.immediate width s.size)]
  | 0x3 =>
    h.encoding (s.size + 1) (operation s.field)
      [h.place width s.place, operationText s.field width (signedAt h.rest s.size 1)]
  | 0x4 | 0x5 => h.placeAndRegister "test" width
  | 0x6 | 0x7 => h.placeAndRegister "xchg" width
  | 0x8 | 0x9 => h.placeAndRegister "mov" width
  | 0xa | 0xb => h.registerAndPlace "mov" width width
  | 0xc | 0xe =>
    (segment? s.field).bind fun name =>
      let place := match s.place with
        | .register _ => h.place h.width s.place
        | .memory _ => h.place .word s.place
      h.encoding s.size "mov" (if low = 0xc then [place, name] else [name, place])
  | 0xd =>
    match s.place with
    | .memory address => h.encoding s.size "lea" [h.selected h.width s, address]
    | .register _ => none
  | 0xf => if s.field = 0 then h.onPlace "pop" h.stackWidth else none
  | _ => none

/-- Opcodes from `90`: exchanges with the first register, widenings and flags. -/
def decodeFrom90 (h : Head) (low : Nat) : Option Encoding :=
  let byWidth (word double quad : String) : String := match h.width with
    | .quad => quad
    | .word => word
    | _ => double
  let byMode (name : String) : Option Encoding := match h.mode with
    | .bits32 => h.bare (name ++ "d")
    | .bits64 => h.bare (name ++ "q")
  match low with
  | 0x8 => h.bare (byWidth "cbw" "cwde" "cdqe")
  | 0x9 => h.bare (byWidth "cwd" "cdq" "cqo")
  | 0xa => none
  | 0xb => h.bare "wait"
  | 0xc => if h.isHalved then h.bare "pushf" else byMode "pushf"
  | 0xd => if h.isHalved then h.bare "popf" else byMode "popf"
  | 0xe => h.bare "sahf"
  | 0xf => h.bare "lahf"
  | r =>
    let r := r + 8 * h.bit 0
    if r = 0 then h.bare "nop"
    else h.encoding 0 "xchg" [h.register h.width 0, h.register h.width r]

/-- The memory that a string instruction reads. -/
def stringSource (h : Head) (width : Width) : String :=
  h.place width (.memory (memory h.mode (some (h.mode.register 6)) none 0))

/-- The memory that a string instruction writes. -/
def stringTarget (h : Head) (width : Width) : String :=
  let address := memory h.mode (some (h.mode.register 7)) none 0
  h.place width (.memory (match h.mode with
    | .bits32 => "es:" ++ address
    | .bits64 => address))

/-- Opcodes from `a0`: the first register and memory at an absolute address, and strings. -/
def decodeFromA0 (h : Head) (low : Nat) : Option Encoding :=
  let width := h.widthOf low
  let accumulator := width.register false 0
  let mnemonic (name : String) : String := name ++ String.ofList (width.keyword.toList.take 1)
  match low / 2 with
  | 0 | 1 =>
    let size := h.mode.width.size
    let place := h.place width (.memory ("[" ++ Operand.natural (unsignedAt h.rest 0 size) ++ "]"))
    h.encoding size (if h.mode = .bits64 then "movabs" else "mov")
      (if low / 2 = 0 then [accumulator, place] else [place, accumulator])
  | 2 => h.encoding 0 (mnemonic "movs") [h.stringTarget width, h.stringSource width]
  | 3 => h.encoding 0 (mnemonic "cmps") [h.stringSource width, h.stringTarget width]
  | 4 =>
    h.encoding (immediateSize width) "test"
      [accumulator, Operand.number (h.immediate width 0)]
  | 5 => h.encoding 0 (mnemonic "stos") [h.stringTarget width, accumulator]
  | 6 => h.encoding 0 (mnemonic "lods") [accumulator, h.stringSource width]
  | _ => h.encoding 0 (mnemonic "scas") [accumulator, h.stringTarget width]

/-- Opcodes from `b0`: immediates to registers. -/
def decodeFromB0 (h : Head) (low : Nat) : Option Encoding :=
  let r := low % 8 + 8 * h.bit 0
  let width := if low < 8 then .byte else h.width
  h.encoding width.size (if width = .quad then "movabs" else "mov")
    [h.register width r, Operand.natural (unsignedAt h.rest 0 width.size)]

/-- A move of the bits of a place; `distance` says in how many bytes its length is given, and
its text. -/
def shifted (h : Head) (width : Width) (distance : Selection → Nat × String) : Option Encoding :=
  let s := h.selection
  let (size, text) := distance s
  (shift? s.field).bind fun name => h.encoding (s.size + size) name [h.place width s.place, text]

/-- Opcodes from `c0`: returns, immediates to places, and interrupts. -/
def decodeFromC0 (h : Head) (low : Nat) : Option Encoding :=
  let width := h.widthOf low
  match low with
  | 0x0 | 0x1 =>
    h.shifted width fun s => (1, Operand.natural (unsignedAt h.rest s.size 1))
  | 0x2 => h.encoding 2 "ret" [Operand.natural (unsignedAt h.rest 0 2)]
  | 0x3 => h.bare "ret"
  | 0x6 | 0x7 =>
    let s := h.selection
    if s.field = 0 then
      h.encoding (s.size + immediateSize width) "mov"
        [h.place width s.place, bits width (h.immediate width s.size)]
    else none
  | 0x9 => h.bare "leave"
  | 0xa => h.encoding 2 "retf" [Operand.natural (unsignedAt h.rest 0 2)]
  | 0xb => h.bare "retf"
  | 0xc => h.bare "int3"
  | 0xd => h.encoding 1 "int" [Operand.natural (unsignedAt h.rest 0 1)]
  | 0xe => h.onlyIn .bits32 (h.bare "into")
  | 0xf => h.bare (match h.width with
      | .quad => "iretq"
      | .word => "iret"
      | _ => "iretd")
  | _ => none

/-- Opcodes from `d0`. -/
def decodeFromD0 (h : Head) (low : Nat) : Option Encoding :=
  let width := h.widthOf low
  match low with
  | 0x0 | 0x1 => h.shifted width fun _ => (0, "1")
  | 0x2 | 0x3 => h.shifted width fun _ => (0, "cl")
  | 0x7 => h.bare "xlatb"
  | _ => none

/-- Opcodes from `e0`: loops, ports, calls and jumps. -/
def decodeFromE0 (h : Head) (low : Nat) : Option Encoding :=
  let width : Width := if low % 2 = 0 then .byte else if h.isHalved then .word else .double
  let accumulator := width.register false 0
  let port := Operand.natural (unsignedAt h.rest 0 1)
  match low with
  | 0x0 => h.jump "loopne" 1
  | 0x1 => h.jump "loope" 1
  | 0x2 => h.jump "loop" 1
  | 0x3 => h.jump (match h.mode with
      | .bits32 => "jecxz"
      | .bits64 => "jrcxz") 1
  | 0x4 | 0x5 => h.encoding 1 "in" [accumulator, port]
  | 0x6 | 0x7 => h.encoding 1 "out" [port, accumulator]
  | 0x8 => h.jump "call" 4
  | 0x9 => h.jump "jmp" 4
  | 0xb => h.jump "jmp" 1
  | 0xc | 0xd => h.encoding 0 "in" [accumulator, "dx"]
  | 0xe | 0xf => h.encoding 0 "out" ["dx", accumulator]
  | _ => none

/-- Opcodes from `f0`: flags, and operations on one operand. -/
def decodeFromF0 (h : Head) (low : Nat) : Option Encoding :=
  let s := h.selection
  let width := h.widthOf low
  match low with
  | 0x1 => h.bare "int1"
  | 0x4 => h.bare "hlt"
  | 0x5 => h.bare "cmc"
  | 0x6 | 0x7 =>
    match s.field with
    | 0 =>
      h.encoding (s.size + immediateSize width) "test"
        [h.place width s.place, Operand.number (h.immediate width s.size)]
    | 1 => none
    | n => h.onPlace (["not", "neg", "mul", "imul", "div", "idiv"].getD (n - 2) "") width
  | 0x8 => h.bare "clc"
  | 0x9 => h.bare "stc"
  | 0xa => h.bare "cli"
  | 0xb => h.bare "sti"
  | 0xc => h.bare "cld"
  | 0xd => h.bare "std"
  | 0xe | 0xf =>
    match s.field with
    | 0 => h.onPlace "inc" width
    | 1 => h.onPlace "dec" width
    | 2 => if low = 0xf then h.onPlace "call" h.stackWidth else none
    | 4 => if low = 0xf then h.onPlace "jmp" h.stackWidth else none
    | 6 => if low = 0xf then h.onPlace "push" h.stackWidth else none
    | _ => none
  | _ => none

/-- Opcodes behind the byte `0f`. -/
def decodeSecond (h : Head) (opcode : Nat) : Option Encoding :=
  match opcode / 16 with
  | 0x4 => h.registerAndPlace ("cmov" ++ condition (opcode % 16)) h.width h.width
  | 0x8 => h.jump ("j" ++ condition (opcode % 16)) 4
  | 0x9 => h.onPlace ("set" ++ condition (opcode % 16)) .byte
  | _ =>
    match opcode with
    | 0x05 => h.onlyIn .bits64 (h.bare "syscall")
    | 0x0b => h.bare "ud2"
    | 0x1f => if h.selection.field = 0 then h.onPlace "nop" h.width else none
    | 0x31 => h.bare "rdtsc"
    | 0x34 => h.bare "sysenter"
    | 0xa2 => h.bare "cpuid"
    | 0xaf => h.registerAndPlace "imul" h.width h.width
    | 0xb6 => h.registerAndPlace "movzx" h.width .byte
    | 0xb7 => h.registerAndPlace "movzx" h.width .word
    | 0xbe => h.registerAndPlace "movsx" h.width .byte
    | 0xbf => h.registerAndPlace "movsx" h.width .word
    | _ => none

/-- The instruction with an opcode of one byte. -/
def decodeFirst (h : Head) (opcode : Nat) : Option Encoding :=
  let low := opcode % 16
  match opcode / 16 with
  | 0x4 => h.decodeStep low
  | 0x5 => h.decodeStack low
  | 0x6 => h.decodeFrom60 low
  | 0x7 => h.jump ("j" ++ condition low) 1
  | 0x8 => h.decodeFrom80 low
  | 0x9 => h.decodeFrom90 low
  | 0xa => h.decodeFromA0 low
  | 0xb => h.decodeFromB0 low
  | 0xc => h.decodeFromC0 low
  | 0xd => h.decodeFromD0 low
  | 0xe => h.decodeFromE0 low
  | 0xf => h.decodeFromF0 low
  | _ => h.decodeOperation opcode

end Head

/-! ## Whole instructions -/

/-- Decodes the instruction that bytes at an address start with. -/
def decode (mode : Mode) (address : UInt64) (bytes : List UInt8) : Option Encoding :=
  let isHalved := unsignedAt bytes 0 1 = 0x66
  let start := if isHalved then 1 else 0
  let extension := unsignedAt bytes start 1
  let isExtended := mode = .bits64 ∧ extension / 16 = 4
  let place := if isExtended then start + 1 else start
  let head (size : Nat) : Head :=
    { mode, address, size, isHalved, rest := bytes.drop size
      extension? := if isExtended then some (extension % 16) else none }
  let opcode := unsignedAt bytes place 1
  if opcode = 0x0f then (head (place + 2)).decodeSecond (unsignedAt bytes (place + 1) 1)
  else (head (place + 1)).decodeFirst opcode

end X86
end OperandSearch
