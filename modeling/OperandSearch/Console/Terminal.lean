import OperandSearch.Failure

/-!
# What a program on a console can do

The surroundings of a run: lines of input, two streams of output, and files.  They are a
record of actions in a monad `m`, so that one program can be run for real and can also be
run on a value that stands for its surroundings.
-/

namespace OperandSearch

/-- The surroundings of a run. -/
structure Terminal (m : Type → Type) where
  /-- The bytes of the next line of input with the line feed that ends it, if it has one;
  none at the end of the input. -/
  readLine : m (Option (List UInt8))
  /-- Writes to the stream of results, which may be closed or full. -/
  print : String → m (Except FileFault Unit)
  /-- Writes to the stream of messages. -/
  complain : String → m Unit
  /-- Maps a file into memory, which not everything that can be read allows. -/
  mapFile : (path : String) → m (Except FileFault ByteArray)
  /-- Puts a text into a file, whatever was there.  What is left of the file after a fault is up
  to the surroundings. -/
  writeFile : (path content : String) → m (Except FileFault Unit)
  /-- A clock that counts nanoseconds. -/
  clock : m Nat

/-- The same surroundings for programs that do more than `m` alone allows. -/
def Terminal.lift {m n : Type → Type} (into : {α : Type} → m α → n α) (terminal : Terminal m) :
    Terminal n where
  readLine := into terminal.readLine
  print text := into (terminal.print text)
  complain text := into (terminal.complain text)
  mapFile path := into (terminal.mapFile path)
  writeFile path content := into (terminal.writeFile path content)
  clock := into terminal.clock

end OperandSearch
