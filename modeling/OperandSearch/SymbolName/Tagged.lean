import OperandSearch.SymbolName.Suffix
import OperandSearch.Text.Numeral

/-!
# Paths of tagged parts

The newer of the two path encodings.  A path starts with `_R` and a tag: `C` for the
root of a library, `N` for a part inside another path, `I` for a path with type
arguments.  A part of a path may carry a number that tells it from others of the same
name; it is shown only where the part has no name of its own, as a closure has none.

Behind the path there may be a second one, which says for whom the function was made.
It must make sense, and it is not shown.

Paths and types may not be nested deeper than a limit; a name that nests them deeper is
no encoded path.  The readers take, besides what is left of this depth, a number of steps
that bounds how often they call each other.  `decode?` gives them more than a name of its
length can use.
-/

namespace OperandSearch
namespace SymbolName
namespace Tagged

/-- The value of a digit in base 62: digits, small letters, capital letters. -/
def digit62? (c : Char) : Option Nat :=
  if c.isDigit then some (c.toNat - '0'.toNat)
  else if c.isLower then some (c.toNat - 'a'.toNat + 10)
  else if c.isUpper then some (c.toNat - 'A'.toNat + 36)
  else none

/-- Reads digits in base 62 up to the underscore that ends them, after those whose value
is `acc`.  The number is one more than its digits say, and fits 64 bits. -/
def number62? (acc : Nat) : List Char → Option (Nat × List Char)
  | [] => none
  | c :: cs =>
    if c = '_' then if acc + 1 < UInt64.size then some (acc + 1, cs) else none
    else do
      let d ← digit62? c
      if 62 * acc + d < UInt64.size then number62? (62 * acc + d) cs else none

/-- The number that tells a part from others of the same name; zero if it has none. -/
def distinction? : List Char → Option (Nat × List Char)
  | 's' :: '_' :: cs => some (1, cs)
  | 's' :: cs => do
    let (n, rest) ← number62? 0 cs
    if n + 1 < UInt64.size then some (n + 1, rest) else none
  | cs => some (0, cs)

/-- Drops the underscore that may separate a length from a name. -/
def dropSeparator : List Char → List Char
  | '_' :: cs => cs
  | cs => cs

/-- A name behind its length in decimal.  A length does not start with a zero unless it is
zero. -/
def name? (cs : List Char) : Option (List Char × List Char) :=
  match cs with
  | [] => none
  | c :: rest =>
    if !c.isDigit then none
    else
      let digits := if c = '0' then ['0'] else c :: rest.takeWhile Char.isDigit
      let behind := dropSeparator (if c = '0' then rest else rest.dropWhile Char.isDigit)
      let length := Nat.ofDigitChars 10 digits 0
      if length ≤ behind.length then some (behind.take length, behind.drop length) else none

/-- How a part is shown behind its path.  A capital letter is the kind of a part that has
no name of its own or not only one. -/
def part (kind : Char) (distinction : Nat) (name : List Char) : List Char :=
  if kind.isUpper then
    let word :=
      if kind = 'C' then "closure".toList else if kind = 'S' then "shim".toList else [kind]
    "::\x7b".toList ++ word ++ (if name.isEmpty then [] else ':' :: name) ++
      '#' :: Nat.toDigits 10 distinction ++ "\x7d".toList
  else if name.isEmpty then []
  else "::".toList ++ name

/-- The basic types. -/
def basicType? (c : Char) : Option String :=
  match c with
  | 'a' => some "i8"
  | 'b' => some "bool"
  | 'c' => some "char"
  | 'd' => some "f64"
  | 'e' => some "str"
  | 'f' => some "f32"
  | 'h' => some "u8"
  | 'i' => some "isize"
  | 'j' => some "usize"
  | 'l' => some "i32"
  | 'm' => some "u32"
  | 'n' => some "i128"
  | 'o' => some "u128"
  | 'p' => some "_"
  | 's' => some "i16"
  | 't' => some "u16"
  | 'u' => some "()"
  | 'v' => some "..."
  | 'x' => some "i64"
  | 'y' => some "u64"
  | 'z' => some "!"
  | _ => none

/-- How deep paths and types may be nested. -/
def depthLimit : Nat := 500

mutual

/-- A path, and what stands behind it.  The arguments of a path that is a value stand
behind another separator. -/
def path? (isValue : Bool) : Nat → Nat → List Char → Option (List Char × List Char)
  | 0, _, _ => none
  | _ + 1, 0, _ => none
  | _ + 1, _ + 1, [] => none
  | steps + 1, depth + 1, tag :: cs =>
    if tag = 'C' then do
      let (_, cs) ← distinction? cs
      name? cs
    else if tag = 'N' then
      match cs with
      | [] => none
      | kind :: cs =>
        if kind.isUpper || kind.isLower then do
          let (parent, cs) ← path? isValue steps depth cs
          let (distinction, cs) ← distinction? cs
          let (name, cs) ← name? cs
          some (parent ++ part kind distinction name, cs)
        else none
    else if tag = 'I' then do
      let (head, cs) ← path? isValue steps depth cs
      let (args, cs) ← arguments? steps depth cs
      some (head ++ (if isValue then "::<".toList else ['<']) ++
        ", ".toList.intercalate args ++ ['>'], cs)
    else none

/-- A type: a basic one, or a path, which is then one level deeper than the type. -/
def type? : Nat → Nat → List Char → Option (List Char × List Char)
  | 0, _, _ => none
  | _ + 1, _, [] => none
  | steps + 1, depth, c :: cs =>
    match basicType? c with
    | some name => some (name.toList, cs)
    | none => path? false steps (depth - 1) (c :: cs)

/-- The types up to the `E` that ends them. -/
def arguments? : Nat → Nat → List Char → Option (List (List Char) × List Char)
  | 0, _, _ => none
  | steps + 1, depth, cs =>
    if cs.head? = some 'E' then some ([], cs.drop 1)
    else do
      let (arg, cs) ← type? steps depth cs
      let (args, cs) ← arguments? steps depth cs
      some (arg :: args, cs)

end

/-- What stands behind the start of an encoded path, if it is one. -/
def body? : List Char → Option (List Char)
  | '_' :: 'R' :: c :: cs => some (c :: cs)
  | 'R' :: c :: cs => some (c :: cs)
  | '_' :: '_' :: 'R' :: c :: cs => some (c :: cs)
  | _ => none

/-- What stands behind the second path, if there is one. -/
def skipInstance? (steps : Nat) (cs : List Char) : Option (List Char) :=
  match cs with
  | c :: _ => if c.isUpper then (path? true steps depthLimit cs).map Prod.snd else some cs
  | [] => some []

/-- The path a name encodes, with the suffix that is kept. -/
def decode? (name : List Char) : Option (List Char) := do
  let body ← body? name
  if !body.all isAscii then none
  else
    let steps := 4 * (body.length + 1)
    let (path, rest) ← path? true steps depthLimit body
    let suffix ← skipInstance? steps rest
    if isKeptSuffix suffix then some (path ++ suffix) else none

end Tagged
end SymbolName
end OperandSearch
