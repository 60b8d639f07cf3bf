/-!
# Architectures

The processor architecture an object file is made for.  Three can be decoded; any
other is known by its name only.
-/

namespace OperandSearch

/-- A processor architecture. -/
inductive Architecture where
  | x86_64
  | i386
  | arm
  /-- An architecture without a decoder. -/
  | other (name : String)
  deriving DecidableEq, Repr

namespace Architecture

/-- The name of an architecture. -/
def name : Architecture → String
  | x86_64 => "X86_64"
  | i386 => "I386"
  | arm => "Arm"
  | other name => name

/-- The architecture of a name. -/
def ofName (name : String) : Architecture :=
  if name = "X86_64" then x86_64
  else if name = "I386" then i386
  else if name = "Arm" then arm
  else other name

/-- The architecture whose machine a file does not name in a way known here. -/
def unknown : Architecture := other "Unknown"

end Architecture
end OperandSearch
