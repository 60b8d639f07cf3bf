import OperandSearch.Bytes
import OperandSearch.Text.Numeral

/-!
# Encoded instructions

What a decoder says about the instruction at the start of some bytes: how many bytes
it takes, its mnemonic, and its operands as text.  Numbers in operands are written
the same way for all architectures: below ten in decimal, else in hexadecimal, and a
negative number as a minus sign before its magnitude.
-/

namespace OperandSearch

/-- An instruction as a decoder describes it. -/
structure Encoding where
  size : Nat
  mnemonic : String
  operands : String
  deriving DecidableEq, Repr

namespace Operand

/-- An operand number that cannot be negative. -/
def natural (n : Nat) : String :=
  if n < 10 then Numeral.decimal n else "0x" ++ Numeral.hex n

/-- An operand number. -/
def number (n : Int) : String :=
  if n < 0 then "-" ++ natural n.natAbs else natural n.natAbs

/-- An operand number with the mark of an immediate. -/
def immediate (n : Int) : String :=
  "#" ++ number n

/-- Operands with commas between them. -/
def list (operands : List String) : String :=
  ", ".intercalate operands

end Operand
end OperandSearch
