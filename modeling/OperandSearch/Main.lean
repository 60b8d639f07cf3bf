import OperandSearch.Tool

/-!
# The program

The command line tool on the surroundings of a real process.  Everything it decides is in
`Tool.run`; this module reads lines and files, writes, and says why arguments were refused.
-/

namespace OperandSearch
namespace Tool

/-- The fault behind an exception of the system. -/
def faultOf : IO.Error → FileFault
  | .noFileOrDirectory _ _ _ => .notFound
  | .inappropriateType _ 20 _ => .notDirectory
  | .inappropriateType _ _ _ => .isDirectory
  | .alreadyExists _ code details => .other details code.toNat
  | .permissionDenied _ code details => .other details code.toNat
  | .resourceExhausted _ code details => .other details code.toNat
  | .invalidArgument _ code details => .other details code.toNat
  | .hardwareFault code details => .other details code.toNat
  | .resourceBusy code details => .other details code.toNat
  | .noSuchThing _ code details => .other details code.toNat
  | error => .other error.toString 5

/-- Runs an action; an exception becomes a fault. -/
def attempt {α : Type} (action : IO α) : IO (Except FileFault α) := do
  try
    return .ok (← action)
  catch error =>
    return .error (faultOf error)

/-- The next line of a stream, behind the bytes already read. -/
partial def readLineFrom (stream : IO.FS.Stream) (line : List UInt8) :
    IO (Option (List UInt8)) := do
  let next ← stream.read 1
  match next.data.toList with
  | [] => return if line.isEmpty then none else some line.reverse
  | b :: _ =>
    if b = 0x0a then return some (b :: line).reverse else readLineFrom stream (b :: line)

/-- The surroundings of the process. -/
def processTerminal : Terminal IO where
  readLine := do readLineFrom (← IO.getStdin) []
  print text := attempt do
    let stream ← IO.getStdout
    stream.putStr text
    stream.flush
  complain text := do
    let stream ← IO.getStderr
    stream.putStr text
    stream.flush
  mapFile path := attempt (IO.FS.readBinFile path)
  writeFile path content := attempt (IO.FS.writeFile path content)
  clock := IO.monoNanosNow

/-- Why arguments were refused, in words. -/
def refusal : Arguments.Stop → String
  | .help => ""
  | .binaryMissing => "the required argument <BINARY> was not provided"
  | .unknown => "unexpected argument found"
  | .invalidValue => "a value is required for an argument but none was supplied"
  | .repeated => "an argument cannot be used multiple times"
  | .valueUnwanted => "unexpected value for an argument that takes none"

end Tool
end OperandSearch

open OperandSearch OperandSearch.Tool

/-- Runs the tool on the arguments of the process. -/
def main (arguments : List String) : IO UInt32 := do
  match Arguments.parse arguments with
  | .error .help => pure ()
  | .error stop => processTerminal.complain ("error: " ++ refusal stop ++ "\n")
  | .ok _ => pure ()
  Tool.run processTerminal arguments (← IO.getEnv "RUST_LOG")
