import OperandSearch.Binary.Selection
import OperandSearch.Listing
import OperandSearch.Log
import OperandSearch.Machine.Disassembly
import OperandSearch.Object.Format
import OperandSearch.Operand.Lexer

/-!
# Loading a binary

From the bytes of a file to the listing a search runs over: the file is parsed, its
functions are selected, and each is disassembled and its operands are turned into
tokens.  Operands that point into a section are marked as possible addresses, and a
section counts for this if it has an address and a size.

How files are parsed, names are read and blocks are disassembled is given to the loader
(`Loader`).  Nothing but the order and the outcome of these three is decided here.

Loading either fails as a whole or skips what it cannot use.  It fails if the file cannot
be parsed, if there is no decoder for its architecture, or if the section of a selected
function cannot be read.  It skips, with a warning, a function whose bytes are not inside
its section, or on which the engine that disassembles gives up; a function that is decoded
in part, or not at all, is kept with the instructions there are.  What happened is reported
in the order in which it happened, also if loading fails later.
-/

namespace OperandSearch

/-- A loaded binary. -/
structure Binary where
  architecture : Architecture
  /-- The address ranges of its sections. -/
  mapped : List AddressRange
  functions : List Function
  deriving DecidableEq, Repr

/-- What loading relies on. -/
structure Loader where
  /-- Parses the file. -/
  reader : Object.Reader
  /-- Read the names of its symbols. -/
  names : SymbolName.Readers
  /-- Disassembles its functions. -/
  engine : Engine

/-- The loader made of the parts of this library. -/
def Loader.builtIn : Loader where
  reader := Object.Image.ofFile
  names := .builtIn
  engine := .builtIn

/-- The result of an operation with what was reported on the way. -/
abbrev Reported (α : Type) := List LogRecord × Except Failure α

namespace Binary

/-- The address ranges that an operand can point into. -/
def mappedRanges (sections : List Object.Section) : List AddressRange :=
  (sections.filter fun s => s.address != 0 && 0 < s.size).map fun s =>
    { start := s.address, stop := s.address + s.size }

/-- The function of a symbol, once its body has been disassembled. -/
def toFunction (mapped : List AddressRange) (s : FunctionSymbol) (body : List Disassembled) :
    Function where
  name := s.name
  start := s.address
  instructions := body.map fun i =>
    { address := i.address, tokens := Token.ofInstruction mapped i.mnemonic i.operands }

/-- A record of the loader. -/
def record (level : LogLevel) (message : String) : LogRecord where
  level
  source := .loader
  message

/-- What is reported about a function whose bytes are not inside its section. -/
def skipped (s : FunctionSymbol) : LogRecord :=
  record .warn ("No data for " ++ s.name ++ " at " ++ Numeral.word s.address ++ "+" ++
    Numeral.word s.size ++ ", skipping")

/-- What is reported about a function that cannot be disassembled. -/
def failed (s : FunctionSymbol) (failure : Failure) : LogRecord :=
  record .warn ("Failed to disassemble " ++ s.name ++ ": " ++ failure.message)

/-- What is reported about a function that is not decoded to its end. -/
def shortened (s : FunctionSymbol) (decoded : Nat) : LogRecord :=
  record .debug (s.name ++ ": decoded 0x" ++ Numeral.hex decoded ++ " of " ++
    Numeral.word s.size ++ " bytes")

/-- How many bytes instructions take together. -/
def decodedSize (body : List Disassembled) : Nat :=
  body.foldr (fun i total => i.size + total) 0

/-- What becomes of one selected function whose section could be read. -/
def loadFunction (d : Disassembler) (mapped : List AddressRange) (s : FunctionSymbol) :
    Option (List UInt8) → List LogRecord × List Function
  | none => ([skipped s], [])
  | some bytes =>
    match d.block s.thumb s.address bytes with
    | .error failure => ([failed s failure], [])
    | .ok body =>
      let decoded := decodedSize body
      (if decoded < s.size.toNat then [shortened s decoded] else [], [toFunction mapped s body])

/-- What becomes of the selected functions, one after the other. -/
def loadFunctions (image : Object.Image) (d : Disassembler) (mapped : List AddressRange) :
    List FunctionSymbol → Reported (List Function)
  | [] => ([], .ok [])
  | s :: rest =>
    match s.bytes image with
    | .error fault => ([], .error (.object fault))
    | .ok bytes? =>
      let here := loadFunction d mapped s bytes?
      let later := loadFunctions image d mapped rest
      (here.1 ++ later.1, later.2.map (here.2 ++ ·))

/-- Loads a parsed object file. -/
def ofImage (loader : Loader) (image : Object.Image) : Reported Binary :=
  match Disassembler.ofArchitecture loader.engine image.architecture with
  | .error failure => ([], .error failure)
  | .ok d =>
    let mapped := mappedRanges image.sections
    let selected := FunctionSymbol.ofImage loader.names d.hasThumb image
    let loaded := loadFunctions image d mapped selected
    (record .debug (Numeral.decimal selected.length ++ " function symbols") :: loaded.1,
      loaded.2.map fun functions => { architecture := image.architecture, mapped, functions })

/-- Loads a binary from the bytes of a file, with a loader. -/
def ofFileWith (loader : Loader) (file : Object.File) : Reported Binary :=
  match loader.reader file with
  | .error fault => ([], .error (.object fault))
  | .ok image => ofImage loader image

/-- Loads a binary from the bytes of a file. -/
def ofFile (file : Object.File) : Reported Binary :=
  ofFileWith .builtIn file

end Binary
end OperandSearch
