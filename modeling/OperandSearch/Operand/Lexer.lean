import OperandSearch.Immediate
import OperandSearch.Operand.Lexeme
import OperandSearch.Operand.Token

/-!
# From operand text to tokens

Each lexeme of an operand text becomes one token with the same text.  Two lexemes
need a judgement.  A word is a keyword if it is a size or shift word of assembly
text, in any case, and a register otherwise.  A literal is read by the same rule as
an analyst's input, so that the two can be compared: its value decides whether it
may be an address, namely when it is not zero and lies in a mapped range, and a
literal too wide for a word is text without a value.
-/

namespace OperandSearch

/-- A half-open range of addresses.  With `stop ≤ start` it contains nothing. -/
structure AddressRange where
  start : UInt64
  stop : UInt64
  deriving DecidableEq, Repr

namespace AddressRange

/-- Whether an address lies in the range. -/
def contains (range : AddressRange) (v : UInt64) : Bool :=
  range.start ≤ v && v < range.stop

/-- Whether a value points into one of the ranges.  Zero never does, because a
zero operand is a number and no address, wherever the ranges lie. -/
def mapped (ranges : List AddressRange) (v : UInt64) : Bool :=
  v != 0 && ranges.any (·.contains v)

end AddressRange

namespace Token

/-- The words of assembly text that name an operand size or a shift. -/
def keywords : List String :=
  ["byte", "word", "dword", "qword", "tbyte", "xword", "xmmword", "ymmword", "zmmword", "ptr",
   "lsl", "lsr", "asr", "ror", "rrx"]

/-- Whether a word is a keyword, in any case. -/
def isKeyword (word : List Char) : Bool :=
  keywords.contains (String.ofList (word.map Char.toLower))

/-- The token of a literal. -/
def ofLiteral (ranges : List AddressRange) (literal : List Char) : Token :=
  match Immediate.parseChars (literal.dropWhile (· == '#')) with
  | .ok v =>
    let kind := if AddressRange.mapped ranges v then TokenKind.possibleAddress else .integer
    { kind, text := String.ofList literal, value := v }
  | .error _ => { kind := .text, text := String.ofList literal }

/-- The token of a lexeme. -/
def ofLexeme (ranges : List AddressRange) (lexeme : Lexeme) : Token :=
  let plain (kind : TokenKind) : Token := { kind, text := String.ofList lexeme.text }
  match lexeme.shape with
  | .separator => plain .operandSeparator
  | .openBracket => plain .beginMemoryOperand
  | .closeBracket => plain .endMemoryOperand
  | .brace => plain .brace
  | .literal => ofLiteral ranges lexeme.text
  | .word => plain (if isKeyword lexeme.text then .keyword else .register)
  | .other => plain .text

/-- The tokens of an operand text. -/
def ofOperands (ranges : List AddressRange) (operands : String) : List Token :=
  (Lexeme.split operands.toList).map (ofLexeme ranges)

/-- The tokens of an instruction: its mnemonic, then its operands. -/
def ofInstruction (ranges : List AddressRange) (mnemonic operands : String) : List Token :=
  { kind := .instruction, text := mnemonic } :: ofOperands ranges operands

end Token
end OperandSearch
