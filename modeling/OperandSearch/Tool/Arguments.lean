import OperandSearch.Console.Sink
import OperandSearch.Search

/-!
# Arguments of the command line

One positional argument, the path of the binary, and options.  An option that takes a
value has it attached (`-v5`, `-v=5`, `--value=5`) or in the next argument.  The value to
search for may be anything, also what looks like an option; a path may not, and may not
be empty.  Short options can be written together.  Behind `--` everything is positional.

Reading goes from left to right.  A value is not judged when it is read: it waits until
the next option or positional argument, or the end, *settles* it, so a mistake in what
stands in between is reported before a mistake in the value.
-/

namespace OperandSearch

/-- What a run of the tool is asked to do. -/
structure Arguments where
  binary : String
  value : Option String := none
  output : Option String := none
  json : Bool := false
  addressesOnly : Bool := false
  debug : Bool := false
  deriving DecidableEq, Repr

namespace Arguments

/-- Which tokens take part in the search. -/
def policy (args : Arguments) : Policy :=
  if args.addressesOnly then .addressesOnly else .immediates

/-- Where the report goes. -/
def sink (args : Arguments) : Sink where
  htmlPath := args.output
  printPlaintext := !args.json
  printJson := args.json

/-- Why arguments ask for no search. -/
inductive Stop where
  /-- The help text is wanted. -/
  | help
  /-- The path of the binary is missing. -/
  | binaryMissing
  /-- There is no such option, or one positional argument too many. -/
  | unknown
  /-- A value is missing, or is an empty path. -/
  | invalidValue
  /-- An option is given twice. -/
  | repeated
  /-- A value is attached to an option that takes none. -/
  | valueUnwanted
  deriving DecidableEq, Repr

/-- The arguments that take a value. -/
inductive Slot where
  | binary
  | value
  | output
  deriving DecidableEq, Repr

/-- The options that take none. -/
inductive Flag where
  | json
  | addressesOnly
  | debug
  | help
  deriving DecidableEq, Repr

/-- The arguments as far as they have been read. -/
structure Draft where
  binary : Option String := none
  value : Option String := none
  output : Option String := none
  json : Bool := false
  addressesOnly : Bool := false
  debug : Bool := false
  /-- An argument that is not settled, with its value if it has been read. -/
  pending : Option (Slot × Option String) := none
  /-- Whether everything that follows is positional. -/
  trailing : Bool := false
  deriving DecidableEq, Repr

namespace Draft

/-- The value of a settled argument. -/
def get (draft : Draft) : Slot → Option String
  | .binary => draft.binary
  | .value => draft.value
  | .output => draft.output

/-- Sets the value of an argument. -/
def put (draft : Draft) (slot : Slot) (text : String) : Draft :=
  match slot with
  | .binary => { draft with binary := some text }
  | .value => { draft with value := some text }
  | .output => { draft with output := some text }

/-- Settles the argument that waits, if one does. -/
def settle (draft : Draft) : Except Stop Draft :=
  match draft.pending with
  | none => .ok draft
  | some (_, none) => .error .invalidValue
  | some (slot, some text) =>
    if (draft.get slot).isSome then .error .repeated
    else if slot ≠ .value ∧ text = "" then .error .invalidValue
    else .ok { draft.put slot text with pending := none }

/-- Lets an argument wait. -/
def await (draft : Draft) (slot : Slot) (text : Option String) : Except Stop Draft := do
  let draft ← draft.settle
  return { draft with pending := some (slot, text) }

/-- Reads an option with its value attached, which settles it at once. -/
def attach (draft : Draft) (slot : Slot) (text : String) : Except Stop Draft := do
  (← draft.await slot (some text)).settle

/-- Sets an option that takes no value. -/
def raise (draft : Draft) (flag : Flag) : Except Stop Draft := do
  let draft ← draft.settle
  match flag with
  | .help => throw .help
  | .json => if draft.json then throw .repeated else return { draft with json := true }
  | .addressesOnly =>
    if draft.addressesOnly then throw .repeated else return { draft with addressesOnly := true }
  | .debug => if draft.debug then throw .repeated else return { draft with debug := true }

/-- Reads a positional argument, of which there is one. -/
def positional (draft : Draft) (text : String) : Except Stop Draft :=
  let waits := match draft.pending with
    | some (.binary, _) => true
    | _ => false
  if draft.binary.isSome || waits then .error .unknown else draft.await .binary (some text)

/-- Reads a long option, which stands behind two hyphens, with the value attached to it. -/
def long (draft : Draft) (name : String) (attached : Option String) : Except Stop Draft :=
  let valued (slot : Slot) : Except Stop Draft := match attached with
    | some text => draft.attach slot text
    | none => draft.await slot none
  let plain (flag : Flag) : Except Stop Draft := match attached with
    | some _ => .error .valueUnwanted
    | none => draft.raise flag
  match name with
  | "value" => valued .value
  | "output" => valued .output
  | "json" => plain .json
  | "addresses-only" => plain .addressesOnly
  | "debug" => plain .debug
  | "help" => plain .help
  | _ => .error .unknown

/-- Reads short options, which stand together behind one hyphen.  What stands behind an
option that takes a value is the value; one equals sign in front of it is not part of
it. -/
def short (draft : Draft) : List Char → Except Stop Draft
  | [] => .ok draft
  | c :: rest =>
    let valued (slot : Slot) : Except Stop Draft := match rest with
      | [] => draft.await slot none
      | '=' :: text => draft.attach slot (String.ofList text)
      | text => draft.attach slot (String.ofList text)
    let plain (flag : Flag) : Except Stop Draft :=
      match draft.raise flag with
      | .ok draft => short draft rest
      | .error stop => .error stop
    if c = 'v' then valued .value
    else if c = 'o' then valued .output
    else if c = 'd' then plain .debug
    else if c = 'h' then plain .help
    else .error .unknown

/-- The name of a long option and the value attached to it. -/
def splitLong (cs : List Char) : String × Option String :=
  let name := String.ofList (cs.takeWhile (· != '='))
  match cs.dropWhile (· != '=') with
  | _ :: text => (name, some (String.ofList text))
  | [] => (name, none)

/-- Reads one argument. -/
def read (draft : Draft) (argument : String) : Except Stop Draft :=
  if draft.trailing then draft.positional argument
  else
    let supply (slot : Slot) : Except Stop Draft :=
      .ok { draft with pending := some (slot, some argument) }
    match draft.pending, argument.toList with
    | some (.value, none), _ => supply .value
    | _, ['-', '-'] => .ok { draft with trailing := true }
    | _, '-' :: '-' :: rest => draft.long (splitLong rest).1 (splitLong rest).2
    | _, '-' :: c :: rest => draft.short (c :: rest)
    | some (slot, none), _ => supply slot
    | _, _ => draft.positional argument

/-- The arguments, once all have been read. -/
def finish (draft : Draft) : Except Stop Arguments := do
  let draft ← draft.settle
  let some binary := draft.binary | throw .binaryMissing
  let { value, output, json, addressesOnly, debug, .. } := draft
  return { binary, value, output, json, addressesOnly, debug }

end Draft

/-- Reads the arguments of a command line. -/
def parse (arguments : List String) : Except Stop Arguments := do
  let draft : Draft ← arguments.foldlM Draft.read {}
  draft.finish

/-- The help text. -/
def help : String :=
  "Search for a specific value in the instruction operands of a binary\n\n" ++
  "Usage: search-immediate [OPTIONS] <BINARY>\n\n" ++
  "Arguments:\n" ++
  "  <BINARY>  Path to the binary to analyse\n\n" ++
  "Options:\n" ++
  "  -v, --value <VALUE>    Value to search for (decimal or 0x-prefixed hex). " ++
    "Prompted for when omitted\n" ++
  "  -o, --output <OUTPUT>  Write the HTML report to this file\n" ++
  "      --json             Print the matches as JSON instead of a text table\n" ++
  "      --addresses-only   Only match operands that look like addresses in the binary\n" ++
  "  -d, --debug            Enable debug output\n" ++
  "  -h, --help             Print help\n"

end Arguments
end OperandSearch
