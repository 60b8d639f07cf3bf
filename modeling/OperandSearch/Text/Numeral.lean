/-!
# Numerals

Numbers as text: the digits of a natural number in a radix, and the reading of a
run of digits back into a 64-bit magnitude.

Reading goes from left to right and stops at the first thing that is wrong, so
the *order* of two faults is part of the rule.  At each character an invalid
digit is reported before the overflow the same character would have caused; an
overflow that an earlier character caused has been reported by then.
-/

namespace OperandSearch

/-- The radix of a numeral. -/
inductive Radix where
  | decimal
  | hexadecimal
  deriving DecidableEq, Repr

namespace Radix

/-- The base of the positional system. -/
def base : Radix → Nat
  | decimal => 10
  | hexadecimal => 16

/-- The value of an ASCII digit of the radix; letters count in either case. -/
def digit? (r : Radix) (c : Char) : Option Nat :=
  if '0' ≤ c ∧ c ≤ '9' then some (c.toNat - '0'.toNat)
  else match r with
    | decimal => none
    | hexadecimal =>
      if 'a' ≤ c ∧ c ≤ 'f' then some (c.toNat - 'a'.toNat + 10)
      else if 'A' ≤ c ∧ c ≤ 'F' then some (c.toNat - 'A'.toNat + 10)
      else none

/-- Whether a character is a digit of the radix. -/
def isDigit (r : Radix) (c : Char) : Bool :=
  (r.digit? c).isSome

end Radix

namespace Numeral

/-- What can be wrong with a run of digits. -/
inductive Fault where
  /-- A character is no digit of the radix. -/
  | invalidDigit
  /-- The value does not fit 64 bits. -/
  | overflow
  deriving DecidableEq, Repr

/-- Reads digits after those whose value is `acc`. -/
def readFrom (r : Radix) (acc : Nat) : List Char → Except Fault Nat
  | [] => .ok acc
  | c :: cs =>
    match r.digit? c with
    | none => .error .invalidDigit
    | some d =>
      if acc * r.base + d < UInt64.size then readFrom r (acc * r.base + d) cs
      else .error .overflow

/-- The magnitude a run of digits writes, below `2 ^ 64`. -/
def read (r : Radix) (digits : List Char) : Except Fault Nat :=
  readFrom r 0 digits

/-- The decimal numeral of a number. -/
def decimal (n : Nat) : String :=
  String.ofList (Nat.toDigits 10 n)

/-- The hexadecimal numeral of a number, lower case, without leading zeros. -/
def hex (n : Nat) : String :=
  String.ofList (Nat.toDigits 16 n)

/-- The hexadecimal numeral of a number, upper case, without leading zeros. -/
def hexUpper (n : Nat) : String :=
  String.ofList ((Nat.toDigits 16 n).map Char.toUpper)

/-- A text made at least `width` characters long by zeros in front of it. -/
def padZeros (width : Nat) (s : String) : String :=
  String.ofList (List.replicate (width - s.length) '0' ++ s.toList)

/-- How a 64-bit value is written in messages and in the document form of a
report: `0x` and lower-case digits. -/
def word (v : UInt64) : String :=
  "0x" ++ hex v.toNat

/-- How an address is written in the tables: `0x` and sixteen upper-case digits. -/
def address (v : UInt64) : String :=
  "0x" ++ padZeros 16 (hexUpper v.toNat)

end Numeral
end OperandSearch
