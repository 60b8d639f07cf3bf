import OperandSearch.Operand.Token

/-!
# Listings

A listing is what a search runs over: the functions of a binary in their order,
each with its disassembled instructions in theirs.
-/

namespace OperandSearch

/-- A disassembled instruction. -/
structure Instruction where
  address : UInt64
  tokens : List Token
  deriving DecidableEq, Repr

/-- A function with its instructions. -/
structure Function where
  name : String
  start : UInt64
  instructions : List Instruction := []
  deriving DecidableEq, Repr

/-- How many instructions the functions have together. -/
def Function.instructionTotal (functions : List Function) : Nat :=
  (functions.flatMap Function.instructions).length

end OperandSearch
