import OperandSearch.SymbolName.Reader
import OperandSearch.SymbolName.Wording

/-!
# Encoded signatures

The encoding in which a name carries its parameter types.  It starts with `_Z`; behind
the name stand the types of the parameters, and for a function with arguments of its own
the type of the result in front of them.

A name without `_Z` may be an encoded type, and then it is read as one, so that an
unencoded name of one letter can turn out to be one.  Nothing may be left over except,
behind a signature, the words of a compiler that cloned the function.

Every reader of the grammar counts as a level of depth, and its first argument is the
number of levels that are left.
-/

namespace OperandSearch
namespace SymbolName
namespace Signature

open Reader

/-! ## Numbers and codes -/

/-- Reads digits.  Several do not start with a zero, and their number fits 63 bits. -/
def digits (isDigit : Char → Bool) (value : List Char → Nat) : Reader (List Char) := do
  match ← span isDigit with
  | [] => missing
  | '0' :: _ :: _ => missing
  | digits => if value digits < UInt64.size / 2 then return digits else missing

/-- The value of digits in base ten. -/
def value10 (digits : List Char) : Nat :=
  Nat.ofDigitChars 10 digits 0

/-- Whether a character is a digit in base 36: a digit or a capital letter. -/
def isDigit36 (c : Char) : Bool :=
  c.isDigit || c.isUpper

/-- The value of digits in base 36. -/
def value36 (digits : List Char) : Nat :=
  digits.foldl (fun n c =>
    36 * n + if c.isDigit then c.toNat - '0'.toNat else c.toNat - 'A'.toNat + 10) 0

/-- Reads digits in base ten. -/
def decimal : Reader (List Char) :=
  digits Char.isDigit value10

/-- The builtin types and their codes. -/
def builtins : List (String × String) :=
  [("a", "signed char"), ("b", "bool"), ("c", "char"), ("d", "double"), ("e", "long double"),
   ("f", "float"), ("g", "__float128"), ("h", "unsigned char"), ("i", "int"),
   ("j", "unsigned int"), ("l", "long"), ("m", "unsigned long"), ("n", "__int128"),
   ("o", "unsigned __int128"), ("s", "short"), ("t", "unsigned short"), ("v", "void"),
   ("w", "wchar_t"), ("x", "long long"), ("y", "unsigned long long"), ("z", "..."),
   ("Dd", "decimal64"), ("De", "decimal128"), ("Df", "decimal32"), ("Dh", "half"),
   ("Di", "char32_t"), ("Ds", "char16_t"), ("Du", "char8_t"), ("Da", "auto"),
   ("Dc", "decltype(auto)"), ("Dn", "std::nullptr_t")]

/-- The operators that can be declared and their codes. -/
def operators : List (String × String) :=
  [("nw", "new"), ("na", "new[]"), ("dl", "delete"), ("da", "delete[]"), ("aw", "co_await"),
   ("ps", "+"), ("ng", "-"), ("ad", "&"), ("de", "*"), ("co", "~"), ("pl", "+"), ("mi", "-"),
   ("ml", "*"), ("dv", "/"), ("rm", "%"), ("an", "&"), ("or", "|"), ("eo", "^"), ("aS", "="),
   ("pL", "+="), ("mI", "-="), ("mL", "*="), ("dV", "/="), ("rM", "%="), ("aN", "&="),
   ("oR", "|="), ("eO", "^="), ("ls", "<<"), ("rs", ">>"), ("lS", "<<="), ("rS", ">>="),
   ("eq", "=="), ("ne", "!="), ("lt", "<"), ("gt", ">"), ("le", "<="), ("ge", ">="),
   ("ss", "<=>"), ("nt", "!"), ("aa", "&&"), ("oo", "||"), ("pp", "++"), ("mm", "--"),
   ("cm", ","), ("pm", "->*"), ("pt", "->"), ("cl", "()"), ("ix", "[]"), ("qu", "?:")]

/-- The names every program knows and their codes. -/
def wellKnown : List (String × WellKnown) :=
  [("St", .standard), ("Sa", .allocator), ("Sb", .basicString), ("Ss", .string),
   ("Si", .inputStream), ("So", .outputStream), ("Sd", .stream)]

/-- The codes of constructors and destructors, and whether they end an object. -/
def lifetimes : List (String × Bool) :=
  [("C1", false), ("C2", false), ("C3", false), ("C4", false),
   ("D0", true), ("D1", true), ("D2", true), ("D4", true)]

/-! ## Leaves of the grammar -/

/-- Whether a character can stand in a declared name. -/
def isNameChar (c : Char) : Bool :=
  c.isAlphanum || c == '$' || c == '_' || c == '.'

/-- A declared name behind its length, which is not zero. -/
def sourceName : Nat → Reader Entity
  | 0 => tooDeep
  | depth + 1 => do
    let length := value10 (← decimal)
    if length = 0 then missing
    else
      let name ← chars length
      if depth = 0 then tooDeep
      else if name.all isNameChar then return .source name
      else missing

/-- A constructor or destructor. -/
def lifetime : Nat → Reader Entity
  | 0 => tooDeep
  | _ + 1 => do return .lifetime (← coded lifetimes)

/-- A reference to a name every program knows, or to an earlier part.  The first part has
no number, the second has number zero. -/
def reference : Nat → Reader Entity
  | 0 => tooDeep
  | 1 => tooDeep
  | _ + 2 => orElse (do return .wellKnown (← coded wellKnown)) do
    expect "S"
    let index := match ← maybe (digits isDigit36 value36) with
      | some digits => value36 digits + 1
      | none => 0
    let part ← part index
    expect "_"
    return part

/-- The qualifiers of a type or of a member function, possibly none. -/
def qualifiers : Reader Qualifiers := do
  let isRestrict ← skip "r"
  let isVolatile ← skip "V"
  let isConst ← skip "K"
  return { isConst, isVolatile, isRestrict }

/-- The kind of object a member function can be called for, if one is named. -/
def objectKind? : Reader (Option ObjectKind) :=
  maybe (coded [("R", .named), ("O", .temporary)])

/-- Whether a word may start with a character: a length, or the code of an operator or of
a constructor or destructor. -/
def startsWord (c : Char) : Bool :=
  c.isDigit || c == 'c' || c == 'C' || c == 'D' || c == 'L' || c == 'U' ||
    operators.any fun entry => entry.1.toList.head? == some c

/-! ## Names and types -/

mutual

/-- A type.  What starts like qualifiers is read as qualifiers and as nothing else; those in
front of a function belong to the function. -/
def type : Nat → Reader Entity
  | 0 => tooDeep
  | 1 => tooDeep
  | 2 => tooDeep
  | depth + 3 => do
    match ← maybe (coded builtins) with
    | some name => return .builtin name.toList
    | none =>
    let q ← qualifiers
    if ← nextIs 'F' then remember (← functionType (depth + 2) q)
    else if !q.isEmpty then remember (.qualified q (← type (depth + 2)))
    else
    match ← maybe (declaredType (depth + 2)) with
    | some name => remember (.declared name)
    | none =>
    match ← maybe (bareReference (depth + 2)) with
    | some part => return part
    | none =>
    match ← maybe (arrayType (depth + 2)) with
    | some type => remember type
    | none =>
    match ← maybe (reference (depth + 1)) with
    | some head => remember (.appliedType head (← arguments (depth + 2)))
    | none =>
    if ← skip "P" then remember (.pointer (← type (depth + 2)))
    else if ← skip "R" then remember (.reference (← type (depth + 2)))
    else if ← skip "O" then remember (.moveReference (← type (depth + 2)))
    else missing

/-- A reference that has no arguments behind it. -/
def bareReference (depth : Nat) : Reader Entity := do
  let part ← reference depth
  if ← nextIs 'I' then missing else return part

/-- The name of a type. -/
def declaredType : Nat → Reader Entity
  | 0 => tooDeep
  | depth + 1 => name depth

/-- A type of functions behind its qualifiers: the result, then the parameters. -/
def functionType : Nat → Qualifiers → Reader Entity
  | 0, _ => tooDeep
  | depth + 1, q => do
    expect "F"
    match ← types depth with
    | result :: params => do
      let object? ← objectKind?
      expect "E"
      return .function result params q object?
    | [] => missing

/-- As many types as there are, at least one. -/
def types : Nat → Reader (List Entity)
  | 0 => tooDeep
  | depth + 1 => many1 (type depth)

/-- A type of arrays. -/
def arrayType : Nat → Reader Entity
  | 0 => tooDeep
  | depth + 1 => do
    expect "A"
    let size := (← maybe decimal).getD []
    expect "_"
    return .array size (← type depth)

/-- A name: one with its scopes, one without, or a reference with arguments. -/
def name : Nat → Reader Entity
  | 0 => tooDeep
  | depth + 1 => do
    match ← maybe (path depth) with
    | some path => return .plain path
    | none =>
    match ← maybe (unscoped depth) with
    | some name =>
      if ← nextIs 'I' then
        let head ← remember (.template name)
        return .applied head (← arguments depth)
      else return .plain name
    | none =>
      let head ← templateHead depth
      return .applied head (← arguments depth)

/-- A name without scopes, or in the standard one. -/
def unscoped : Nat → Reader Entity
  | 0 => tooDeep
  | depth + 1 => do
    if ← skip "St" then return .standard (← word depth)
    else return .free (← word depth)

/-- What arguments can follow: a name without scopes, or a reference. -/
def templateHead : Nat → Reader Entity
  | 0 => tooDeep
  | depth + 1 => do
    match ← maybe (unscoped depth) with
    | some name => remember (.template name)
    | none => reference depth

/-- A name between `N` and `E`, with the qualifiers of a member function. -/
def path : Nat → Reader Entity
  | 0 => tooDeep
  | depth + 1 => do
    expect "N"
    let q ← qualifiers
    let object? ← objectKind?
    let last ← components depth
    expect "E"
    if last.isComponent then return .path last q object? else missing

/-- The components of a path, at least one. -/
def components : Nat → Reader Entity
  | 0 => tooDeep
  | depth + 1 => fun cursor =>
    (do
      match ← iterate (component depth) (cursor.rest.length + 1) none with
      | some last => return last
      | none => missing : Reader Entity) cursor

/-- The next component of a path, behind those that make up `scope?`.  All but the last can
be referred to later.  Inside a scope, a length is known to start a declared name. -/
def component : Nat → Option Entity → Reader (Option (Option Entity))
  | 0, _ => tooDeep
  | depth + 1, scope? => do
    let keep (found : Entity) : Reader (Option (Option Entity)) := do
      if ← nextIs 'E' then return some (some found) else return some (some (← remember found))
    match ← next?, scope? with
    | none, _ => return none
    | some 'E', _ => return none
    | some 'S', _ => return some (some (← reference depth))
    | some 'I', some scope => keep (.templated scope (← arguments depth))
    | some c, some scope =>
      if c.isDigit then keep (.member scope (← sourceName depth))
      else if startsWord c then keep (.member scope (← word depth))
      else return none
    | some c, none => if startsWord c then keep (.outermost (← word depth)) else return none

/-- A word: an operator, a conversion, a constructor or destructor, or a declared name. -/
def word : Nat → Reader Entity
  | 0 => tooDeep
  | depth + 1 => do
    match ← maybe (orElse (operator depth) (lifetime depth)) with
    | some word => return word
    | none =>
      let _ ← skip "L"
      sourceName depth

/-- An operator, or a conversion to a type. -/
def operator : Nat → Reader Entity
  | 0 => tooDeep
  | 1 => tooDeep
  | depth + 2 => do
    match ← maybe (coded operators) with
    | some symbol => return .operator symbol.toList
    | none =>
      expect "cv"
      return .conversion (← type (depth + 1))

/-- Arguments between `I` and `E`, at least one. -/
def arguments : Nat → Reader (List Argument)
  | 0 => tooDeep
  | depth + 1 => do
    expect "I"
    let args ← many1 (argument depth)
    expect "E"
    return args

/-- An argument: a constant, a type, or several arguments in the place of one. -/
def argument : Nat → Reader Argument
  | 0 => tooDeep
  | depth + 1 =>
    orElse (constant depth) <| orElse (do return .type (← type depth)) do
      orElse (expect "J") (expect "I")
      let args ← many (argument depth)
      expect "E"
      return .pack args

/-- A constant of a type between `L` and `E`. -/
def constant : Nat → Reader Argument
  | 0 => tooDeep
  | depth + 1 => do
    expect "L"
    let ofType ← type depth
    let digits ← span (· != 'E')
    expect "E"
    return .constant ofType digits

end

/-! ## Whole signatures -/

/-- What a signature describes. -/
inductive Description where
  | function (name : Entity) (types : List Entity)
  | data (name : Entity)
  /-- Data that a compiler makes for a name or a type, with what stands around it. -/
  | generated (before : String) (entity : Entity) (after : String)

/-- The data a compiler makes for a type: its code, and what stands before and behind the
type. -/
def typeData : List (String × String × String) :=
  [("TV", "\x7bvtable(", ")\x7d"), ("TT", "\x7bvtt(", ")\x7d"), ("TI", "typeinfo for ", ""),
   ("TS", "typeinfo name for ", "")]

/-- Data that a compiler makes. -/
def generated : Nat → Reader Description
  | 0 => tooDeep
  | depth + 1 => do
    match ← maybe (coded typeData) with
    | some (before, after) => return .generated before (← type depth) after
    | none =>
      expect "GV"
      return .generated "guard variable for " (← name depth) ""

/-- A signature: a name with types behind it, a name alone, or data that a compiler
makes. -/
def description : Nat → Reader Description
  | 0 => tooDeep
  | depth + 1 => do
    match ← maybe (name depth) with
    | some name =>
      match ← maybe (types depth) with
      | some types => return .function name types
      | none => return .data name
    | none => generated depth

/-- How deep the readers may call each other. -/
def readingLimit : Nat := 95

/-- How deep an entity may be nested to be written. -/
def writingLimit : Nat := 127

/-- Writes a function with its parameters.  The result is written if the function has
arguments of its own, unless it has none. -/
def writeFunction (depth : Nat) (name : Entity) (types : List Entity) : Option Draft := do
  let leaf? := name.leaf?
  let front ← match types with
    | result :: _ =>
      if name.isApplied && !name.isResultless then
        pure ((← result.write leaf? depth {}).say " ")
      else pure {}
    | [] => pure {}
  let params := if name.isApplied then types.drop 1 else types
  Draft.around (.signature params name.isApplied) (name.write leaf? depth)
    (fun part => part.settle leaf? depth) front

/-- The text of what a signature describes. -/
def Description.text? (description : Description) : Option (List Char) := do
  let depth := writingLimit - 2
  let draft ← match description with
    | .function name types => writeFunction depth name types
    | .data name => name.write none depth {}
    | .generated before entity after => do
      let inner ← entity.write none (depth - 1) (Draft.say {} before)
      pure (inner.say after)
  return draft.text.reverse

/-! ## Clones -/

/-- Whether a character can stand in the word of a compiler that cloned a function. -/
def isCloneChar (c : Char) : Bool :=
  c.isAlphanum || c == '$' || c == '_'

/-- The word of a compiler that cloned a function and the numbers behind it, as they are
shown. -/
def clone : Reader (List Char) := do
  expect "."
  let word ← span isCloneChar
  if word.isEmpty then missing
  else
    let numbers ← many (do expect "."; decimal)
    return " [clone .".toList ++ word ++ numbers.flatMap ('.' :: ·) ++ [']']

/-! ## Names -/

/-- What a reader finds, if it leaves nothing over. -/
def whole? {α : Type} (reader : Reader α) (cs : List Char) : Option α :=
  match reader { rest := cs } with
  | .found value { rest := [], .. } => some value
  | _ => none

/-- What stands behind the start of a signature, if it is one.  One more underscore is what
some systems put in front of every name. -/
def body? : List Char → Option (List Char)
  | '_' :: 'Z' :: cs => some cs
  | '_' :: '_' :: 'Z' :: cs => some cs
  | _ => none

/-- The text of an encoded signature, or of an encoded type. -/
def decode? (name : List Char) : Option (List Char) :=
  match body? name with
  | some body => do
    let (description, clones) ← whole? (do
      let description ← description (readingLimit - 1)
      return (description, ← many clone)) body
    return (← description.text?) ++ clones.flatten
  | none => do
    let type ← whole? (type (readingLimit - 1)) name
    return (← type.write none (writingLimit - 1) {}).text.reverse

end Signature
end SymbolName
end OperandSearch
