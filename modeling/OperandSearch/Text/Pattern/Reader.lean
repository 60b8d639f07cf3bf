import OperandSearch.Text.Numeral
import OperandSearch.Text.Pattern
import OperandSearch.Text.Property

/-!
# How patterns are written

The usual notation of regular expressions: a character stands for itself, a period for
any but a line feed, brackets hold sets, parentheses hold groups, a bar separates
alternatives, and `*`, `+`, `?` and counts between braces repeat what stands in front.
Behind a backslash a sign stands for itself and a letter for a class, an edge or a
control character.

A text that is not written so is refused as a whole: an open bracket that is never
closed, a repetition of nothing, a letter that means nothing behind a backslash, a
property that nothing is known by, two groups of one name, a reference to an earlier
group, a look to the side.  So is a pattern that nests too deep or grows too large.

The readers take a number of steps that bounds how deep groups and sets may nest.
`Pattern.ofText?` gives them one for each character.
-/

namespace OperandSearch
namespace Text
namespace Pattern

/-- How the rest of a group is read. -/
structure Mode where
  /-- Letters stand for both of their cases. -/
  caseless : Bool := false
  /-- The marks for start and end hold at every line. -/
  multiline : Bool := false
  /-- A period stands for a line feed, too. -/
  dotAll : Bool := false
  /-- Blanks and comments between the signs say nothing. -/
  spaced : Bool := false
  /-- Classes hold characters of ASCII only, and no set may hold others. -/
  asciiOnly : Bool := false

/-- A set as a mode reads it. -/
def Mode.set (mode : Mode) (set : CharSet) : CharSet :=
  if mode.caseless then .caseless set else set

/-- A class that is wider in texts beyond ASCII, or all that is not in it. -/
def Mode.class? (mode : Mode) (isNegated : Bool) (set narrow : CharSet) : Option CharSet :=
  match isNegated, mode.asciiOnly with
  | false, false => some set
  | true, false => some (.compl set)
  | false, true => some narrow
  | true, true => none

/-- What is written behind a backslash. -/
inductive Escape where
  | char (c : Char)
  | set (set : CharSet)
  | edge (edge : Edge)

/-- Whether this is a character beyond ASCII whose number fits in a byte. -/
def Escape.isByte : Escape → Bool
  | .char c => 0x80 ≤ c.toNat && c.toNat < 0x100
  | _ => false

/-! ## Characters by number -/

/-- The character of a number in hexadecimal digits. -/
def charOfDigits? (digits : List Char) : Option Char :=
  if digits.isEmpty || !digits.all Radix.hexadecimal.isDigit then none
  else
    let n := digits.foldl (fun n c => 16 * n + (Radix.hexadecimal.digit? c).getD 0) 0
    if h : n.isValidChar then some (Char.ofNatAux n h) else none

/-- A character by number: digits between braces, or as many as the letter in front asks
for. -/
def numbered? (width : Nat) (cs : List Char) : Option (Escape × List Char) :=
  match cs with
  | '\x7b' :: rest =>
    match rest.dropWhile (· != '\x7d') with
    | _ :: behind => (charOfDigits? (rest.takeWhile (· != '\x7d'))).map fun c => (.char c, behind)
    | [] => none
  | _ =>
    if cs.length < width then none
    else (charOfDigits? (cs.take width)).map fun c => (.char c, cs.drop width)

/-! ## Behind a backslash -/

/-- The digits of ASCII. -/
def digitSpans : List (Char × Char) :=
  [('0', '9')]

/-- The blanks of ASCII. -/
def spaceSpans : List (Char × Char) :=
  [('\t', '\r'), (' ', ' ')]

/-- The characters of words of ASCII. -/
def wordSpans : List (Char × Char) :=
  [('0', '9'), ('A', 'Z'), ('_', '_'), ('a', 'z')]

/-- The signs that stand for themselves behind a backslash: those of ASCII but letters,
digits and the angles. -/
def isSign (c : Char) : Bool :=
  c.toNat < 0x80 && !c.isAlphanum && c != '<' && c != '>'

/-- The edges of words that have a name between braces. -/
def namedEdges : List (String × Edge) :=
  [("start", .wordStart), ("end", .wordEnd), ("start-half", .wordStartHalf),
   ("end-half", .wordEndHalf)]

/-- Behind the letter for the boundary of a word.  A brace opens the name of an edge if a
letter follows, and otherwise belongs to a count. -/
def boundary? (cs : List Char) : Option (Escape × List Char) :=
  match cs with
  | '\x7b' :: c :: rest =>
    if c.isAlpha || c == '-' then
      let isNameChar (c : Char) : Bool := c.isAlpha || c == '-'
      match (c :: rest).dropWhile isNameChar with
      | '\x7d' :: behind =>
        (namedEdges.lookup (String.ofList ((c :: rest).takeWhile isNameChar))).map fun edge =>
          (.edge edge, behind)
      | _ => none
    else some (.edge .boundary, cs)
  | _ => some (.edge .boundary, cs)

/-- A property behind the letter that asks for it: a single letter, or a text between
braces. -/
def property? (mode : Mode) (isNegated : Bool) (cs : List Char) : Option (Escape × List Char) := do
  guard !mode.asciiOnly
  let cs := if mode.spaced then cs.dropWhile isBlank else cs
  let (set, behind) ← match cs with
    | '\x7b' :: rest =>
      match rest.dropWhile (· != '\x7d') with
      | _ :: behind =>
        (Property.ofText? mode.set (rest.takeWhile (· != '\x7d'))).map fun set => (set, behind)
      | [] => none
    | c :: rest => (Property.ofName? [c]).map fun set => (mode.set set, rest)
    | [] => none
  some (.set (if isNegated then .compl set else set), behind)

/-- What is written behind a backslash, and what stands behind it. -/
def escape? (mode : Mode) (cs : List Char) : Option (Escape × List Char) :=
  match cs with
  | [] => none
  | c :: rest =>
    let isNegated := c.isUpper
    let found (set? : Option CharSet) := set?.map fun set => (Escape.set set, rest)
    match c with
    | 'd' | 'D' => found (mode.class? isNegated .digit (.spans digitSpans))
    | 's' | 'S' => found (mode.class? isNegated .blank (.spans spaceSpans))
    | 'w' | 'W' => found (mode.class? isNegated .word (.spans wordSpans))
    | 'p' | 'P' => property? mode isNegated rest
    | 'a' => some (.char '\x07', rest)
    | 'f' => some (.char '\x0c', rest)
    | 't' => some (.char '\t', rest)
    | 'n' => some (.char '\n', rest)
    | 'r' => some (.char '\r', rest)
    | 'v' => some (.char '\x0b', rest)
    | 'x' => (numbered? 2 rest).filter fun found => !mode.asciiOnly || !found.1.isByte
    | 'u' => numbered? 4 rest
    | 'U' => numbered? 8 rest
    | 'A' => some (.edge .textStart, rest)
    | 'z' => some (.edge .textEnd, rest)
    | 'b' => boundary? rest
    | 'B' => some (.edge .noBoundary, rest)
    | '<' => some (.edge .wordStart, rest)
    | '>' => some (.edge .wordEnd, rest)
    | _ => if isSign c then some (.char c, rest) else none

/-! ## Sets between brackets -/

/-- The classes that have a name between colons. -/
def namedSets : List (String × List (Char × Char)) :=
  [("alnum", [('0', '9'), ('A', 'Z'), ('a', 'z')]), ("alpha", [('A', 'Z'), ('a', 'z')]),
   ("ascii", [('\x00', '\x7f')]), ("blank", [('\t', '\t'), (' ', ' ')]),
   ("cntrl", [('\x00', '\x1f'), ('\x7f', '\x7f')]), ("digit", digitSpans),
   ("graph", [('!', '~')]), ("lower", [('a', 'z')]), ("print", [(' ', '~')]),
   ("punct", [('!', '/'), (':', '@'), ('[', '\x60'), ('\x7b', '~')]),
   ("space", spaceSpans), ("upper", [('A', 'Z')]), ("word", wordSpans),
   ("xdigit", [('0', '9'), ('A', 'F'), ('a', 'f')])]

/-- A class with a name, behind the bracket that opens it. -/
def namedSet? (mode : Mode) (cs : List Char) : Option (CharSet × List Char) :=
  match cs with
  | ':' :: rest =>
    let (isNegated, rest) := match rest with
      | '^' :: rest => (true, rest)
      | _ => (false, rest)
    match rest.dropWhile (· != ':') with
    | ':' :: ']' :: behind =>
      (namedSets.lookup (String.ofList (rest.takeWhile (· != ':')))).map fun list =>
        let set := mode.set (.spans list)
        (if isNegated then .compl set else set, behind)
    | _ => none
  | _ => none

/-- A member of a set: a character, or a class behind a backslash. -/
def member? (mode : Mode) (cs : List Char) : Option (Escape × List Char) :=
  match cs with
  | [] => none
  | '\\' :: rest =>
    match escape? mode rest with
    | some (.edge _, _) => none
    | found => found
  | c :: rest => some (.char c, rest)

/-- A member of a set or a span of characters. -/
def members? (mode : Mode) (cs : List Char) : Option (CharSet × List Char) := do
  let (found, rest) ← member? mode cs
  match found, rest with
  | .edge _, _ => none
  | .set set, '-' :: c :: _ => if c = ']' ∨ c = '-' then some (set, rest) else none
  | .set set, _ => some (set, rest)
  | .char first, '-' :: c :: behind =>
    if c = ']' ∨ c = '-' then some (mode.set (.single first), rest)
    else match ← member? mode (c :: behind) with
      | (.char last, behind) =>
        if first ≤ last then some (mode.set (.span first last), behind) else none
      | _ => none
  | .char c, _ => some (mode.set (.single c), rest)

/-- The operations on the sets inside a set. -/
def setOperation? (cs : List Char) : Option ((CharSet → CharSet → CharSet) × List Char) :=
  match cs with
  | '&' :: '&' :: rest => some (.inter, rest)
  | '-' :: '-' :: rest => some (.diff, rest)
  | '~' :: '~' :: rest => some (.symmDiff, rest)
  | _ => none

mutual

/-- A set, behind the bracket that opens it.  Dashes at the start stand for themselves, and
so does a bracket that would close the set at once. -/
def set? (mode : Mode) : Nat → List Char → Option (CharSet × List Char)
  | 0, _ => none
  | steps + 1, cs =>
    let (isNegated, cs) := match cs with
      | '^' :: rest => (true, rest)
      | _ => (false, cs)
    let (start, cs) := match cs with
      | '-' :: rest => (CharSet.single '-', rest.dropWhile (· == '-'))
      | ']' :: rest => (CharSet.single ']', rest)
      | _ => (CharSet.nothing, cs)
    if isNegated && mode.asciiOnly then none
    else (setRest? mode steps id start cs).map fun found =>
      (if isNegated then .compl found.1 else found.1, found.2)

/-- The rest of a set: `operation` waits for the members read so far, which are `found`. -/
def setRest? (mode : Mode) : Nat → (CharSet → CharSet) → CharSet → List Char →
    Option (CharSet × List Char)
  | 0, _, _, _ => none
  | _ + 1, _, _, [] => none
  | steps + 1, operation, found, c :: rest =>
    if c = ']' then some (operation found, rest)
    else if mode.spaced && isBlank c then setRest? mode steps operation found rest
    else if c = '[' then
      match (namedSet? mode rest).or (set? mode steps rest) with
      | some (set, rest) => setRest? mode steps operation (.union found set) rest
      | none => none
    else match setOperation? (c :: rest) with
      | some (next, rest) => setRest? mode steps (next (operation found)) .nothing rest
      | none => do
        let (set, rest) ← members? mode (c :: rest)
        setRest? mode steps operation (.union found set) rest

end

/-! ## Repetitions -/

/-- A number with blanks around it. -/
def count? (cs : List Char) : Option (Nat × List Char) :=
  let cs := cs.dropWhile isBlank
  match cs.takeWhile Char.isDigit with
  | [] => none
  | digits =>
    let n := Nat.ofDigitChars 10 digits 0
    if n < UInt32.size then some (n, (cs.dropWhile Char.isDigit).dropWhile isBlank) else none

/-- How often something is repeated, behind the brace that opens it. -/
def bounds? (cs : List Char) : Option ((Nat × Option Nat) × List Char) := do
  let (least, rest) ← count? cs
  match rest with
  | '\x7d' :: behind => some ((least, some least), behind)
  | ',' :: '\x7d' :: behind => some ((least, none), behind)
  | ',' :: rest =>
    match ← count? rest with
    | (most, '\x7d' :: behind) => if least ≤ most then some ((least, some most), behind) else none
    | _ => none
  | _ => none

/-- How often something is repeated that stands in front of this, if it is.  The outer
`none` says that a count is malformed. -/
def repetition? (cs : List Char) : Option (Option ((Nat × Option Nat) × List Char)) :=
  match cs with
  | '*' :: rest => some (some ((0, none), rest))
  | '+' :: rest => some (some ((1, none), rest))
  | '?' :: rest => some (some ((0, some 1), rest))
  | '\x7b' :: rest => (bounds? rest).map some
  | _ => some none

/-- Drops the mark of a repetition that prefers few rounds, which makes no difference to
whether a text holds a pattern. -/
def dropLazy : List Char → List Char
  | '?' :: rest => rest
  | cs => cs

/-! ## Groups -/

/-- Sets one of the letters of a mode.  The letters that prefer few rounds and that know a
second kind of line end change nothing here. -/
def Mode.with? (mode : Mode) (letter : Char) (on : Bool) : Option Mode :=
  match letter with
  | 'i' => some { mode with caseless := on }
  | 'm' => some { mode with multiline := on }
  | 's' => some { mode with dotAll := on }
  | 'x' => some { mode with spaced := on }
  | 'u' => some { mode with asciiOnly := !on }
  | 'U' | 'R' => some mode
  | _ => none

/-- The letters of a mode up to the sign behind them.  No letter and no minus occurs twice,
and a minus has a letter behind it. -/
def modeLetters? (mode : Mode) (seen : List Char) : List Char → Option (Mode × List Char)
  | [] => none
  | c :: rest =>
    if c = ':' ∨ c = ')' then if seen.head? = some '-' then none else some (mode, c :: rest)
    else if c ∈ seen then none
    else if c = '-' then modeLetters? mode ('-' :: seen) rest
    else (mode.with? c (!seen.contains '-')).bind fun mode => modeLetters? mode (c :: seen) rest

/-- The name of a group, up to the angle that closes it. -/
def groupName? (cs : List Char) : Option (String × List Char) :=
  let name := cs.takeWhile (· != '>')
  let isNameChar (c : Char) : Bool := isWordChar c || c == '.' || c == '[' || c == ']'
  match name, cs.dropWhile (· != '>') with
  | first :: _, _ :: behind =>
    if name.all isNameChar ∧ isWordChar first ∧ !isDecimalDigit first then
      some (String.ofList name, behind)
    else none
  | _, _ => none

/-- What a parenthesis opens: a group that is read in a mode, with the names of all groups
so far, or a new mode for the rest of the group it stands in. -/
inductive Opening where
  | group (mode : Mode) (names : List String) (rest : List Char)
  | setting (mode : Mode) (rest : List Char)

/-- What stands behind an opening parenthesis.  A name must be new. -/
def opening? (mode : Mode) (names : List String) (cs : List Char) : Option Opening :=
  let named? (rest : List Char) : Option Opening := do
    let (name, behind) ← groupName? rest
    if name ∈ names then none else some (.group mode (name :: names) behind)
  match cs with
  | '?' :: 'P' :: '<' :: rest => named? rest
  | '?' :: '<' :: rest => named? rest
  | '?' :: rest =>
    match modeLetters? mode [] rest with
    | some (inner, ':' :: behind) => some (.group inner names behind)
    | some (inner, _ :: behind) =>
      if rest.head? = some ')' then none else some (.setting inner behind)
    | _ => none
  | _ => some (.group mode names cs)

/-! ## Parts of patterns -/

/-- A pattern that has been read. -/
structure Part where
  pattern : Pattern
  /-- How many groups, repetitions, sets and rows of several parts stand around what is
  innermost in it. -/
  depth : Nat := 0
  /-- A new mode is a part that cannot be repeated. -/
  isSetting : Bool := false

namespace Part

/-- The depth of the deepest part. -/
def deepest (parts : List Part) : Nat :=
  parts.foldl (fun depth part => max depth part.depth) 0

/-- Parts one behind the other, the last of which comes first. -/
def row (parts : List Part) : Part :=
  match parts with
  | [] => { pattern := .empty }
  | [part] => part
  | _ =>
    { pattern := parts.foldl (fun behind part => .sequence part.pattern behind) .empty
      depth := deepest parts + 1 }

/-- One of several parts, of which there is at least one in front. -/
def choice (first : Part) (others : List Part) : Part :=
  if others.isEmpty then first
  else
    { pattern := others.foldl (fun all part => .either part.pattern all) first.pattern
      depth := max first.depth (deepest others) + 1 }

/-- A part between parentheses. -/
def grouped (part : Part) : Part :=
  { pattern := part.pattern, depth := part.depth + 1 }

/-- A part several times in a row. -/
def repeated (part : Part) (least : Nat) (most : Option Nat) : Part :=
  { pattern := .repeated part.pattern least most, depth := part.depth + 1 }

end Part

/-- What has been read of a group. -/
structure Reading where
  /-- The alternatives in front, the last of which comes first. -/
  alternatives : List Part := []
  /-- The parts in front in the same alternative, the last of which comes first. -/
  parts : List Part := []
  /-- The names of all groups so far. -/
  names : List String := []

namespace Reading

/-- One more part. -/
def push (reading : Reading) (part : Part) : Reading :=
  { reading with parts := part :: reading.parts }

/-- The start of the next alternative. -/
def next (reading : Reading) : Reading :=
  { reading with alternatives := Part.row reading.parts :: reading.alternatives, parts := [] }

/-- The whole of a group. -/
def whole (reading : Reading) : Part :=
  Part.choice (Part.row reading.parts) reading.alternatives

end Reading

/-! ## Patterns -/

/-- A single sign that is no bracket, parenthesis or repetition. -/
def sign? (mode : Mode) (c : Char) (rest : List Char) : Option (Pattern × List Char) :=
  match c with
  | '\\' => (escape? mode rest).map fun
    | (.char c, rest) => (one (mode.set (.single c)), rest)
    | (.set set, rest) => (one set, rest)
    | (.edge e, rest) => (edge e, rest)
  | '.' =>
    let excluded := if mode.dotAll then CharSet.nothing else .single '\n'
    if mode.asciiOnly then none else some (one (.compl excluded), rest)
  | '^' => some (edge (if mode.multiline then .lineStart else .textStart), rest)
  | '$' => some (edge (if mode.multiline then .lineEnd else .textEnd), rest)
  | _ => some (one (mode.set (.single c)), rest)

/-- Reads a pattern up to the end of its group. -/
def read? (mode : Mode) : Nat → Reading → List Char → Option (Reading × List Char)
  | 0, _, _ => none
  | _ + 1, reading, [] => some (reading, [])
  | steps + 1, reading, c :: rest =>
    if mode.spaced && isBlank c then read? mode steps reading rest
    else if mode.spaced && c == '#' then read? mode steps reading (rest.dropWhile (· != '\n'))
    else if c = ')' then some (reading, c :: rest)
    else if c = '|' then read? mode steps reading.next rest
    else if c = '(' then
      match opening? mode reading.names rest with
      | some (.group inner names rest) =>
        match read? inner steps { names } rest with
        | some (group, ')' :: behind) =>
          read? mode steps ({ reading with names := group.names }.push group.whole.grouped) behind
        | _ => none
      | some (.setting inner rest) =>
        read? inner steps (reading.push { pattern := .empty, isSetting := true }) rest
      | none => none
    else if c = '[' then
      match set? mode steps rest with
      | some (set, behind) =>
        read? mode steps (reading.push { pattern := one set, depth := 1 }) behind
      | none => none
    else match repetition? (c :: rest), reading.parts with
      | some (some ((least, most), behind)), part :: front =>
        if part.isSetting then none
        else
          read? mode steps { reading with parts := part.repeated least most :: front }
            (dropLazy behind)
      | some none, _ => do
        let (pattern, behind) ← sign? mode c rest
        read? mode steps (reading.push { pattern }) behind
      | _, _ => none

/-- How large a pattern may be when its repetitions are written out. -/
def weightLimit : Nat := 300000

/-- How deep a pattern may nest. -/
def depthLimit : Nat := 250

/-- The pattern a text writes. -/
def ofText? (text : String) : Option Pattern :=
  let cs := text.toList
  match read? {} (cs.length + 1) {} cs with
  | some (reading, []) =>
    let { pattern, depth, .. } := reading.whole
    if depth ≤ depthLimit ∧ pattern.weight ≤ weightLimit then some pattern else none
  | _ => none

end Pattern
end Text
end OperandSearch
