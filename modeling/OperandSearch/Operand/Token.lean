import OperandSearch.Text.Blank

/-!
# Tokens of an instruction text

The unit in which a disassembled instruction is described.  A token has a kind,
the text that is displayed, and a word: for the two numeric kinds it is the value
the text denotes, with negative literals in two's complement, and for all other
kinds it carries no meaning and is zero when the token comes from operand text.
-/

namespace OperandSearch

/-- What a token is. -/
inductive TokenKind where
  | text
  | instruction
  | operandSeparator
  | register
  | keyword
  | integer
  | possibleAddress
  | beginMemoryOperand
  | endMemoryOperand
  | brace
  deriving DecidableEq, Repr

namespace TokenKind

/-- Whether a token of this kind denotes a value. -/
def isNumeric : TokenKind → Bool
  | integer | possibleAddress => true
  | _ => false

/-- Every kind. -/
def all : List TokenKind :=
  [text, instruction, operandSeparator, register, keyword, integer, possibleAddress,
   beginMemoryOperand, endMemoryOperand, brace]

/-- The name of a kind. -/
def name : TokenKind → String
  | text => "Text"
  | instruction => "Instruction"
  | operandSeparator => "OperandSeparator"
  | register => "Register"
  | keyword => "Keyword"
  | integer => "Integer"
  | possibleAddress => "PossibleAddress"
  | beginMemoryOperand => "BeginMemoryOperand"
  | endMemoryOperand => "EndMemoryOperand"
  | brace => "Brace"

end TokenKind

/-- One token of an instruction text. -/
structure Token where
  kind : TokenKind
  text : String
  value : UInt64 := 0
  deriving DecidableEq, Repr

namespace Token

/-- A token list as one line: every text without the blanks at its ends, and one
space between neighbours.  A token of blanks alone still takes its place. -/
def line (tokens : List Token) : String :=
  " ".intercalate (tokens.map fun token => Text.trim token.text)

end Token
end OperandSearch
