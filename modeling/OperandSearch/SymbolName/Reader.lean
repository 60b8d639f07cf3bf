import OperandSearch.SymbolName.Entity

/-!
# Readers with a memory

A part of an encoded signature that occurs again is encoded as a reference to its first
occurrence.  So a reader keeps, beside the text that is left, the parts that can be
referred to, in the order in which they were completed.

A reader that finds nothing leaves the text as it was, and another one can try.  What was
remembered meanwhile stays remembered, also if the attempt it belonged to came to nothing:
the numbers of later parts depend on it.

How deep readers may call each other is limited.  Where the limit is met nothing else is
tried, and the whole text is no signature.
-/

namespace OperandSearch
namespace SymbolName

/-- What is left to read, and the parts that can be referred to. -/
structure Cursor where
  rest : List Char
  parts : Array Entity := #[]

/-- The outcome of a reader. -/
inductive Reading (α : Type) where
  | found (value : α) (cursor : Cursor)
  /-- Nothing of this kind stands here; the parts that were remembered meanwhile. -/
  | missing (parts : Array Entity)
  | tooDeep

/-- A reader of a part of a signature. -/
def Reader (α : Type) : Type :=
  Cursor → Reading α

namespace Reader

variable {α : Type}

/-- A reader that finds nothing. -/
def missing : Reader α := fun cursor => .missing cursor.parts

/-- A reader that has met the limit of depth. -/
def tooDeep : Reader α := fun _ => .tooDeep

instance : Monad Reader where
  pure value := fun cursor => .found value cursor
  bind reader next := fun cursor =>
    match reader cursor with
    | .found value cursor => next value cursor
    | .missing parts => .missing parts
    | .tooDeep => .tooDeep

/-- What a reader finds, or the fact that it finds nothing. -/
def maybe (reader : Reader α) : Reader (Option α) := fun cursor =>
  match reader cursor with
  | .found value cursor => .found (some value) cursor
  | .missing parts => .found none { cursor with parts }
  | .tooDeep => .tooDeep

/-- Tries a second reader where a first one finds nothing. -/
def orElse (first second : Reader α) : Reader α := do
  match ← maybe first with
  | some value => return value
  | none => second

/-- The next character, which stays in the text. -/
def next? : Reader (Option Char) := fun cursor => .found cursor.rest.head? cursor

/-- Whether the next character, which stays in the text, is `c`. -/
def nextIs (c : Char) : Reader Bool := do
  return (← next?) == some c

/-- Reads a fixed mark. -/
def expect (mark : String) : Reader Unit := fun cursor =>
  if mark.toList.isPrefixOf cursor.rest then
    .found () { cursor with rest := cursor.rest.drop mark.length }
  else .missing cursor.parts

/-- Reads a mark if it stands here. -/
def skip (mark : String) : Reader Bool := do
  return (← maybe (expect mark)).isSome

/-- Reads the characters up to the first that is not of a class. -/
def span (isKind : Char → Bool) : Reader (List Char) := fun cursor =>
  .found (cursor.rest.takeWhile isKind) { cursor with rest := cursor.rest.dropWhile isKind }

/-- Reads a number of characters. -/
def chars (count : Nat) : Reader (List Char) := fun cursor =>
  let taken := cursor.rest.take count
  if taken.length < count then .missing cursor.parts
  else .found taken { cursor with rest := cursor.rest.drop count }

/-- Adds a part that can be referred to from now on. -/
def remember (part : Entity) : Reader Entity := fun cursor =>
  .found part { cursor with parts := cursor.parts.push part }

/-- The part of a number. -/
def part (index : Nat) : Reader Entity := fun cursor =>
  match cursor.parts[index]? with
  | some part => .found part cursor
  | none => .missing cursor.parts

/-- What the first code that stands here is a code for. -/
def coded (table : List (String × α)) : Reader α :=
  table.foldr (fun entry rest => orElse (do expect entry.1; return entry.2) rest) missing

/-- Behind the items of `before`, which are the last first, as many more as there are, but
not more than `rounds`. -/
def manyFrom (item : Reader α) : (rounds : Nat) → (before : List α) → Reader (List α)
  | 0, before => return before.reverse
  | rounds + 1, before => do
    match ← maybe item with
    | some found => manyFrom item rounds (found :: before)
    | none => return before.reverse

/-- As many items as there are. -/
def many (item : Reader α) : Reader (List α) := fun cursor =>
  manyFrom item cursor.rest.length [] cursor

/-- As many items as there are, at least one. -/
def many1 (item : Reader α) : Reader (List α) := do
  let first ← item
  return first :: (← many item)

/-- Steps on from a state until a step says that it is the last. -/
def iterate (step : α → Reader (Option α)) : (rounds : Nat) → α → Reader α
  | 0, state => return state
  | rounds + 1, state => do
    match ← step state with
    | some next => iterate step rounds next
    | none => return state

end Reader
end SymbolName
end OperandSearch
