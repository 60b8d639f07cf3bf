import OperandSearch.Listing

/-!
# Searching a listing for a value

An instruction is found if one of its tokens has a kind that the policy admits and
the value looked for.  It is found once, however many of its tokens fit, and the
finds stand in the order of the listing.
-/

namespace OperandSearch

/-- Which tokens take part in a search. -/
inductive Policy where
  /-- All numbers, whether or not they may be addresses. -/
  | immediates
  /-- Only numbers that may be addresses. -/
  | addressesOnly
  deriving DecidableEq, Repr

namespace Policy

/-- Whether a token of a kind takes part. -/
def accepts : Policy → TokenKind → Bool
  | immediates, kind => kind.isNumeric
  | addressesOnly, kind => kind == .possibleAddress

/-- Whether one of the tokens takes part and has the value. -/
def admits (policy : Policy) (v : UInt64) (tokens : List Token) : Bool :=
  tokens.any fun token => policy.accepts token.kind && token.value == v

/-- The name of a policy. -/
def name : Policy → String
  | immediates => "Immediates"
  | addressesOnly => "AddressesOnly"

end Policy

/-- An instruction that was found: where it is, and its text. -/
structure Match where
  address : UInt64
  function : String
  instruction : String
  deriving DecidableEq, Repr

namespace Match

/-- The find that an instruction of a function makes. -/
def ofInstruction (function : Function) (instruction : Instruction) : Match where
  address := instruction.address
  function := function.name
  instruction := Token.line instruction.tokens

/-- The finds in one function. -/
def inFunction (policy : Policy) (v : UInt64) (function : Function) : List Match :=
  (function.instructions.filter fun i => policy.admits v i.tokens).map (ofInstruction function)

/-- The finds in a listing. -/
def lookup (policy : Policy) (v : UInt64) (functions : List Function) : List Match :=
  functions.flatMap (inFunction policy v)

end Match
end OperandSearch
