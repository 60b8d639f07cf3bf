import OperandSearch.Console.Files
import OperandSearch.Console.Terminal

/-!
# Surroundings as a value

A value that stands for the surroundings of a run: the input that is left, what was
written to the two streams, and the files.
-/

namespace OperandSearch

/-- The surroundings of a run. -/
structure World where
  input : List UInt8 := []
  output : String := ""
  messages : String := ""
  files : Files := []

namespace World

/-- Reads the file a path names. -/
def read (world : World) (path : String) : Except FileFault ByteArray :=
  world.files.readFile path

/-- The first line of some bytes, with the line feed that ends it, and the rest. -/
def splitLine : List UInt8 → List UInt8 × List UInt8
  | [] => ([], [])
  | b :: bs =>
    if b = 0x0a then ([b], bs)
    else
      let (line, rest) := splitLine bs
      (b :: line, rest)

/-- Takes the next line of the input. -/
def nextLine (world : World) : Option (List UInt8) × World :=
  match world.input with
  | [] => (none, world)
  | input =>
    let (line, rest) := splitLine input
    (some line, { world with input := rest })

/-- The surroundings a value stands for.  Everything can be printed, and the clock stands still. -/
def terminal : Terminal (StateM World) where
  readLine := modifyGet nextLine
  print text := do
    modify fun world => { world with output := world.output ++ text }
    return .ok ()
  complain text := modify fun world => { world with messages := world.messages ++ text }
  mapFile path := do return (← get).files.mapFile path
  writeFile path content := do
    match (← get).files.writeFile path content with
    | .ok files => modify fun world => { world with files }; return .ok ()
    | .error fault => return .error fault
  clock := return 0

end World
end OperandSearch
