import OperandSearch.Failure
import OperandSearch.Machine.Architecture
import OperandSearch.Machine.Arm
import OperandSearch.Machine.X86

/-!
# Disassembly

A decoder knows one instruction set and describes the instruction that some bytes
start with.  Disassembling a block applies it again and again, each time behind the
instruction before, and ends without complaint at the first bytes that are no
instruction or not all of one.  So the instructions of a block follow one another
without a gap, start where the block starts, and do not run past its end.

What uses a disassembler does not depend on these decoders.  It is given an `Engine`, of
which only the form of its answers is known, and which may also give up on a block.
-/

namespace OperandSearch

/-- An instruction of a block, with its place. -/
structure Disassembled where
  address : UInt64
  size : Nat
  mnemonic : String
  operands : String
  deriving DecidableEq, Repr

/-- A way to decode the instruction that bytes at an address start with. -/
abbrev Decoder := UInt64 → List UInt8 → Option Encoding

/-- The instructions of a block of bytes at an address.  A description that takes no bytes,
or more than there are, is none. -/
def Decoder.block (decode : Decoder) (address : UInt64) (bytes : List UInt8) :
    List Disassembled :=
  match decode address bytes with
  | none => []
  | some e =>
    if _h : 0 < e.size ∧ e.size ≤ bytes.length then
      ⟨address, e.size, e.mnemonic, e.operands⟩ ::
        block decode (address + UInt64.ofNat e.size) (bytes.drop e.size)
    else []
termination_by bytes.length
decreasing_by
  simp only [List.length_drop]
  omega

/-- The instruction sets that a block of bytes can be written in. -/
inductive InstructionSet where
  | x86_64
  | x86_32
  | arm
  | thumb
  deriving DecidableEq, Repr

/-- Something that disassembles blocks: the instructions of a block at an address, or, in
words, why there are none to be had. -/
abbrev Engine :=
  InstructionSet → (address : UInt64) → (bytes : List UInt8) → Except String (List Disassembled)

/-- The decoder of an instruction set in this library. -/
def InstructionSet.decoder : InstructionSet → Decoder
  | x86_64 => X86.decode .bits64
  | x86_32 => X86.decode .bits32
  | arm => Arm.decode
  | thumb => Thumb.decode

/-- The engine made of the decoders of this library.  It never gives up on a block. -/
def Engine.builtIn : Engine := fun set address bytes =>
  .ok (set.decoder.block address bytes)

/-- How an architecture is disassembled.  Where functions of two instruction sets can
stand side by side, the second one is known as well. -/
structure Disassembler where
  engine : Engine
  plain : InstructionSet
  thumb? : Option InstructionSet := none

namespace Disassembler

/-- The disassembler of an architecture, if there is one. -/
def ofArchitecture (engine : Engine) : Architecture → Except Failure Disassembler
  | .x86_64 => .ok { engine, plain := .x86_64 }
  | .i386 => .ok { engine, plain := .x86_32 }
  | .arm => .ok { engine, plain := .arm, thumb? := some .thumb }
  | .other name => .error (.unsupportedArchitecture name)

/-- Whether there is a second instruction set. -/
def hasThumb (d : Disassembler) : Bool :=
  d.thumb?.isSome

/-- The instruction set of a block; the second one is used only where there is one. -/
def instructionSet (d : Disassembler) (thumb : Bool) : InstructionSet :=
  if thumb then d.thumb?.getD d.plain else d.plain

/-- The instructions of a block. -/
def block (d : Disassembler) (thumb : Bool) (address : UInt64) (bytes : List UInt8) :
    Except Failure (List Disassembled) :=
  match d.engine (d.instructionSet thumb) address bytes with
  | .ok body => .ok body
  | .error description => .error (.disassembly description)

end Disassembler
end OperandSearch
