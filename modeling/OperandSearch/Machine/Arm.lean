import OperandSearch.Machine.Encoding

/-!
# Decoding ARM and Thumb

Two instruction sets of one architecture.  An ARM instruction is a word of four
bytes, a Thumb instruction here is a halfword of two; both are stored with the least
significant byte first, also in files whose own numbers are stored the other way
round.  Only unconditional instructions are decoded: those with an immediate, those
that load from a displacement, branches, and the usual ways into and out of a
function.

A branch is described by its target.  The program counter is two instructions ahead
of the one that reads it, which is where the constants eight and four come from.
-/

namespace OperandSearch
namespace Arm

/-- The name of a register. -/
def register (r : Nat) : String :=
  ["r0", "r1", "r2", "r3", "r4", "r5", "r6", "r7",
   "r8", "sb", "sl", "fp", "ip", "sp", "lr", "pc"].getD r ""

/-- The bits of a word from `low` on, `count` of them. -/
def bits (word low count : Nat) : Nat :=
  (word >>> low) % (1 <<< count)

/-- The target of a branch, as an operand. -/
def target (address : UInt64) (ahead : Nat) (displacement : Int) : String :=
  let counter : Int := (address.toNat + ahead : Nat)
  Operand.immediate ((counter + displacement) % UInt32.size)

/-- A memory operand below a register.  Zero keeps its minus sign here. -/
def below (base : String) (displacement : Nat) : String :=
  "[" ++ base ++ ", #-" ++ Operand.natural displacement ++ "]"

/-- A memory operand above a register. -/
def above (base : String) (displacement : Nat) : String :=
  "[" ++ base ++ ", " ++ Operand.immediate displacement ++ "]"

/-- A list of registers that are saved or restored together. -/
def registerList (names : List String) : String :=
  "\x7b" ++ Operand.list names ++ "\x7d"

/-- An instruction of one word. -/
def wordSized (mnemonic : String) (operands : List String) : Option Encoding :=
  some { size := 4, mnemonic, operands := Operand.list operands }

/-- Decodes the ARM instruction that a word at an address encodes. -/
def decodeWord (address : UInt64) (word : Nat) : Option Encoding :=
  let d := register (bits word 12 4)
  let n := register (bits word 16 4)
  let byte := bits word 0 8
  let plainByte := bits word 8 4 = 0
  let branch := 4 * Bytes.signed 24 (bits word 0 24)
  if word = 0xe12fff1e then wordSized "bx" ["lr"]
  else if word = 0xe320f000 then wordSized "nop" []
  else if word = 0xe92d4010 then wordSized "push" [registerList ["r4", "lr"]]
  else if word = 0xe92d4030 then wordSized "push" [registerList ["r4", "r5", "lr"]]
  else if word = 0xe8bd8010 then wordSized "pop" [registerList ["r4", "pc"]]
  else if word = 0xe8bd8030 then wordSized "pop" [registerList ["r4", "r5", "pc"]]
  else if bits word 24 8 = 0xeb then wordSized "bl" [target address 8 branch]
  else if bits word 24 8 = 0xea then wordSized "b" [target address 8 branch]
  else if bits word 16 16 = 0xe3a0 ∧ plainByte then wordSized "mov" [d, Operand.immediate byte]
  else if bits word 20 12 = 0xe30 then
    wordSized "movw" [d, Operand.immediate (0x1000 * bits word 16 4 + bits word 0 12 : Nat)]
  else if bits word 20 12 = 0xe28 ∧ plainByte then
    wordSized "add" [d, n, Operand.immediate byte]
  else if bits word 20 12 = 0xe24 ∧ plainByte then
    wordSized "sub" [d, n, Operand.immediate byte]
  else if bits word 20 12 = 0xe35 ∧ bits word 8 8 = 0 then
    wordSized "cmp" [n, Operand.immediate byte]
  else if bits word 20 12 = 0xe08 ∧ bits word 4 3 = 0 then
    let shift := bits word 7 5
    wordSized "add" ([d, n, register (bits word 0 4)] ++
      if shift = 0 then [] else ["lsl #" ++ Numeral.decimal shift])
  else if bits word 16 16 = 0xe59f then
    wordSized "ldr" [d, if bits word 0 12 = 0 then "[pc]" else above "pc" (bits word 0 12)]
  else if bits word 16 16 = 0xe51f then wordSized "ldr" [d, below "pc" (bits word 0 12)]
  else if bits word 20 12 = 0xe5b then wordSized "ldr" [d, above n (bits word 0 12) ++ "!"]
  else if bits word 20 12 = 0xe53 then wordSized "ldr" [d, below n (bits word 0 12) ++ "!"]
  else none

/-- Decodes the ARM instruction that bytes at an address start with. -/
def decode (address : UInt64) (bytes : List UInt8) : Option Encoding :=
  decodeWord address (Bytes.field .little bytes 0 4)

end Arm

namespace Thumb

open Arm (bits register registerList)

/-- An instruction of one halfword. -/
def halfwordSized (mnemonic : String) (operands : List String) : Option Encoding :=
  some { size := 2, mnemonic, operands := Operand.list operands }

/-- Decodes the Thumb instruction that a halfword at an address encodes. -/
def decodeHalfword (address : UInt64) (half : Nat) : Option Encoding :=
  let high := register (bits half 8 3)
  let byte := bits half 0 8
  let slot := 4 * bits half 6 5
  let cell :=
    if slot = 0 then "[" ++ register (bits half 3 3) ++ "]"
    else Arm.above (register (bits half 3 3)) slot
  if half = 0x4770 then halfwordSized "bx" ["lr"]
  else if half = 0xbf00 then halfwordSized "nop" []
  else if half = 0xb510 then halfwordSized "push" [registerList ["r4", "lr"]]
  else if half = 0xb5f0 then
    halfwordSized "push" [registerList ["r4", "r5", "r6", "r7", "lr"]]
  else if half = 0xbd10 then halfwordSized "pop" [registerList ["r4", "pc"]]
  else if half = 0xbdf0 then halfwordSized "pop" [registerList ["r4", "r5", "r6", "r7", "pc"]]
  else if bits half 7 9 = 0x160 then
    halfwordSized "add" ["sp", Operand.immediate (4 * bits half 0 7 : Nat)]
  else if bits half 7 9 = 0x161 then
    halfwordSized "sub" ["sp", Operand.immediate (4 * bits half 0 7 : Nat)]
  else match bits half 11 5 with
    | 0x04 => halfwordSized "movs" [high, Operand.immediate byte]
    | 0x05 => halfwordSized "cmp" [high, Operand.immediate byte]
    | 0x06 => halfwordSized "adds" [high, Operand.immediate byte]
    | 0x07 => halfwordSized "subs" [high, Operand.immediate byte]
    | 0x09 => halfwordSized "ldr" [high, Arm.above "pc" (4 * byte)]
    | 0x0c => halfwordSized "str" [register (bits half 0 3), cell]
    | 0x0d => halfwordSized "ldr" [register (bits half 0 3), cell]
    | 0x1c =>
      halfwordSized "b" [Arm.target address 4 (2 * Bytes.signed 11 (bits half 0 11))]
    | _ => none

/-- Decodes the Thumb instruction that bytes at an address start with. -/
def decode (address : UInt64) (bytes : List UInt8) : Option Encoding :=
  decodeHalfword address (Bytes.field .little bytes 0 2)

end Thumb
end OperandSearch
