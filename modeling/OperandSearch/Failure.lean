import OperandSearch.Immediate
import OperandSearch.Object.Fault
import OperandSearch.Text.Quoted

/-!
# Failures

Everything that can go wrong between a path and a report, as causes; the wording is
in one function.  A failure that wraps the fault of a file or of an object keeps it,
so that a caller can print the chain of causes.
-/

namespace OperandSearch

/-- Why a file cannot be read or written, or a stream not written. -/
inductive FileFault where
  | notFound
  | isDirectory
  | notDirectory
  | noDevice
  | nameTooLong
  /-- A path with a zero byte in it, which cannot be given to the system. -/
  | zeroByte
  /-- Any other fault, with the system's wording and number. -/
  | other (description : String) (code : Nat)
  deriving DecidableEq, Repr

namespace FileFault

/-- The wording of a fault. -/
def description : FileFault → String
  | notFound => "No such file or directory"
  | isDirectory => "Is a directory"
  | notDirectory => "Not a directory"
  | noDevice => "No such device"
  | nameTooLong => "File name too long"
  | zeroByte => "file name contained an unexpected NUL byte"
  | other description _ => description

/-- The system's number of a fault, if the system was asked at all. -/
def code? : FileFault → Option Nat
  | notFound => some 2
  | isDirectory => some 21
  | notDirectory => some 20
  | noDevice => some 19
  | nameTooLong => some 36
  | zeroByte => none
  | other _ code => some code

/-- A fault in words. -/
def message (fault : FileFault) : String :=
  match fault.code? with
  | some code => fault.description ++ " (os error " ++ Numeral.decimal code ++ ")"
  | none => fault.description

end FileFault

/-- Why an operation failed. -/
inductive Failure where
  /-- An answer is no immediate; it is kept as it was given. -/
  | invalidImmediate (input : String) (reason : Immediate.Reason)
  | file (fault : FileFault)
  | object (fault : Object.Fault)
  /-- A block could not be disassembled, for a reason in words. -/
  | disassembly (description : String)
  /-- There is no decoder for the architecture of this name. -/
  | unsupportedArchitecture (name : String)
  deriving DecidableEq, Repr

namespace Failure

/-- A failure in words. -/
def message : Failure → String
  | invalidImmediate input reason =>
    "invalid immediate " ++ Text.quoted input ++ ": " ++ reason.text
  | file fault => "IO error: " ++ fault.message
  | object fault => "object file error: " ++ fault.message
  | disassembly description => "disassembly error: " ++ description
  | unsupportedArchitecture name => "unsupported architecture: " ++ name

/-- What lies behind a failure, in words. -/
def cause? : Failure → Option String
  | file fault => some fault.message
  | object fault => some fault.message
  | disassembly description => some description
  | _ => none

end Failure

/-- The value an answer writes; the failure repeats the answer. -/
def Immediate.ofAnswer (answer : String) : Except Failure UInt64 :=
  match Immediate.parse answer with
  | .ok v => .ok v
  | .error reason => .error (.invalidImmediate answer reason)

end OperandSearch
