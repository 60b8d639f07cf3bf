import OperandSearch.SymbolName.Entity

/-!
# Drafts of declarations

A type is written around what it declares: the star of a pointer to a function stands in
the middle of the function's text.  So the outer parts of a declaration wait while the
inner part is written, and are written as soon as their place has come.

A draft is the text so far and the parts that wait, the innermost first.  A part that
comes to its place early is taken from the draft, and whoever left it there finds it gone.
So every part carries a number of its own.

How deep parts may be nested is limited; a declaration that is nested deeper has no text.
-/

namespace OperandSearch
namespace SymbolName

/-- A part of a declaration that waits for its place. -/
inductive Pending where
  | pointer
  | reference
  | moveReference
  /-- Qualifiers, perhaps those of an array. -/
  | qualified (qualifiers : Qualifiers) (ofArray : Bool)
  | array (size : List Char)
  /-- The parameters of a type of functions. -/
  | parameters (params : List Entity)
  /-- What stands behind the parameters of a type of functions. -/
  | function (qualifiers : Qualifiers) (object? : Option ObjectKind)
  /-- The parameters of the function that a signature describes; its result is written in
  front of it if `hasResult` is set. -/
  | signature (params : List Entity) (hasResult : Bool)

/-- The text of a declaration so far, its last character first, and the parts that wait,
the innermost first. -/
structure Draft where
  text : List Char := []
  pending : List (Nat × Pending) := []
  /-- The number of the next part. -/
  fresh : Nat := 0

namespace Draft

/-! ## Text -/

/-- Adds characters. -/
def put (draft : Draft) (cs : List Char) : Draft :=
  { draft with text := cs.reverse ++ draft.text }

/-- Adds a word. -/
def say (draft : Draft) (s : String) : Draft :=
  draft.put s.toList

/-- Adds a space, unless there is one. -/
def space (draft : Draft) : Draft :=
  if draft.text.head? = some ' ' then draft else draft.put [' ']

/-- Adds the words of qualifiers, each behind a space. -/
def qualify (draft : Draft) (q : Qualifiers) : Draft :=
  q.words.foldl (fun draft word => draft.space.say word) draft

/-- Adds what stands behind the parameters of a member function. -/
def close (draft : Draft) (q : Qualifiers) (object? : Option ObjectKind) : Draft :=
  match object? with
  | some kind => (draft.qualify q).space.say kind.sign
  | none => draft.qualify q

/-! ## Parts that wait -/

/-- Leaves a part to wait, under a number of its own. -/
def leave (draft : Draft) (part : Pending) : Draft :=
  { draft with pending := (draft.fresh, part) :: draft.pending, fresh := draft.fresh + 1 }

/-- Takes the innermost part that waits. -/
def take? (draft : Draft) : Option (Pending × Draft) :=
  match draft.pending with
  | [] => none
  | (_, part) :: rest => some (part, { draft with pending := rest })

/-- Takes back the part of a number, if it is the innermost that waits. -/
def takeBack? (draft : Draft) (number : Nat) : Option Draft :=
  match draft.pending with
  | (n, _) :: rest => if n = number then some { draft with pending := rest } else none
  | [] => none

/-- Writes the sign of a reference.  References to temporary objects that wait around it
are taken, and a reference to a named object that waits around all of them stands for it. -/
def collapse (draft : Draft) (sign : String) : Draft :=
  let pending := draft.pending.dropWhile fun part =>
    match part.2 with
    | .moveReference => true
    | _ => false
  match pending with
  | (_, .reference) :: _ => { draft with pending }
  | _ => { draft with pending }.say sign

/-- A way to go on with a draft, if it is not nested too deep. -/
abbrev Step := Draft → Option Draft

/-- Writes something while a part waits, and then the part, unless that came to its place
meanwhile. -/
def around (part : Pending) (inside : Step) (settle : Pending → Step) : Step := fun draft => do
  let inner ← inside (draft.leave part)
  match inner.takeBack? draft.fresh with
  | some draft => settle part draft
  | none => some inner

/-- Writes something while no part waits. -/
def alone (inside : Step) : Step := fun draft => do
  let inner ← inside { draft with pending := [] }
  return { inner with pending := draft.pending }

/-- Writes all parts that wait. -/
def settleAll (settle : Pending → Step) : Nat → Step
  | 0, draft => some draft
  | rounds + 1, draft =>
    match draft.take? with
    | some (part, draft) => do settleAll settle rounds (← settle part draft)
    | none => some draft

/-- Writes the parts that stand in front of parameters: all but the qualifiers behind other
parameters, which go on waiting. -/
def settleFront (settle : Pending → Step) : Nat → (kept : List (Nat × Pending)) → Step
  | 0, kept, draft => some { draft with pending := kept.reverse ++ draft.pending }
  | rounds + 1, kept, draft =>
    match draft.pending with
    | [] => some { draft with pending := kept.reverse }
    | (number, part) :: rest =>
      match part with
      | .function q _ =>
        if q.isEmpty then do
          settleFront settle rounds kept (← settle part { draft with pending := rest })
        else settleFront settle rounds ((number, part) :: kept) { draft with pending := rest }
      | _ => do settleFront settle rounds kept (← settle part { draft with pending := rest })

/-! ## Lists -/

/-- Writes the items of a list with commas between them. -/
def listed {α : Type} (item : α → Step) : List α → Step
  | [], draft => some draft
  | first :: rest, draft => do
    rest.foldlM (fun draft next => item next (draft.say ", ")) (← item first draft)

/-- Writes arguments between angle brackets.  Two brackets never touch, because together
they would be an operator. -/
def bracketed (item : Argument → Step) (args : List Argument) : Step := fun draft => do
  let opened := (if draft.text.head? = some '<' then draft.say " " else draft).say "<"
  let inner ← alone (listed item args) opened
  return (if inner.text.head? = some '>' then inner.say " " else inner).say ">"

/-! ## Functions and arrays -/

/-- Whether the parts that wait must stand between parentheses in front of parameters, and
if so, whether a space must come first: the innermost part that is neither an array nor a
function decides. -/
def grouping? (draft : Draft) : Option Bool :=
  draft.pending.findSome? fun part =>
    match part.2 with
    | .qualified _ _ => some true
    | .pointer => some false
    | .reference => some false
    | .moveReference => some false
    | _ => none

/-- Writes the parameters of a function behind the parts that wait. -/
def parameters (settle : Pending → Step) (type : Entity → Step) (params : List Entity) :
    Step := fun draft => do
  let rounds := draft.pending.length
  let grouped ← match draft.grouping? with
    | some needsSpace => do
      let needsSpace :=
        needsSpace || !(draft.text.head? == some '(' || draft.text.head? == some '*')
      let opened := (if needsSpace then draft.space else draft).say "("
      let inner ← settleFront settle rounds [] opened
      pure (inner.say ")")
    | none => settleFront settle rounds [] draft
  match params with
  | [only] =>
    if only.isVoid then return grouped.say "()"
    else do
      let inner ← type only (grouped.say "(")
      settleAll settle inner.pending.length (inner.say ")")
  | _ => do
    let inner ← listed type params (grouped.say "(")
    settleAll settle inner.pending.length (inner.say ")")

/-- Writes the parts that wait in front of the size of an array.  Sizes follow each other
directly, and everything but them and their qualifiers stands between parentheses.
`isFirst` says that no size was written yet. -/
def arrayParts (settle : Pending → Step) : Nat → (isFirst : Bool) → Draft →
    Option (Bool × Draft)
  | 0, isFirst, draft => some (isFirst, draft)
  | rounds + 1, isFirst, draft =>
    match draft.take? with
    | none => some (isFirst, draft)
    | some (part, draft) =>
      match part with
      | .array _ => do arrayParts settle rounds false (← settle part draft)
      | .qualified _ true => do arrayParts settle rounds isFirst (← settle part draft)
      | .qualified _ false => do
        let opened := (← settle part draft.space).space.say "("
        let inner ← settleAll settle opened.pending.length opened
        arrayParts settle rounds isFirst (inner.say ")")
      | _ => do
        let opened ← settle part (draft.space.say "(")
        let inner ← settleAll settle opened.pending.length opened
        arrayParts settle rounds isFirst (inner.say ")")

/-- Writes the size of an array behind the parts that wait. -/
def arraySize (settle : Pending → Step) (size : List Char) : Step := fun draft => do
  let (isFirst, draft) ← arrayParts settle draft.pending.length true draft
  return ((if isFirst then draft.space else draft).put ('[' :: size)).say "]"

/-! ## Constants -/

/-- The text of digits: `n` in front stands for minus. -/
def number (digits : List Char) : List Char :=
  match digits with
  | 'n' :: rest => '-' :: rest
  | _ => digits

/-- The text of digits that are those of a fraction's bits. -/
def fraction (digits : List Char) : List Char :=
  match digits with
  | 'n' :: rest => '-' :: '[' :: rest ++ [']']
  | _ => '[' :: digits ++ [']']

/-- Writes a constant of a type: a truth value by its name, an integer of the usual type by
its digits, and every other behind its type. -/
def constant (type : Entity → Step) (ofType : Entity) (digits : List Char) : Step := fun draft =>
  let cast (text : List Char) : Option Draft := do
    return ((← type ofType (draft.say "(")).say ")").put text
  match ofType with
  | .builtin name =>
    if name = "bool".toList ∧ digits = ['0'] then some (draft.say "false")
    else if name = "bool".toList ∧ digits = ['1'] then some (draft.say "true")
    else if name = "std::nullptr_t".toList then some (draft.say "nullptr")
    else if name = "int".toList then some (draft.put (number digits))
    else if name = "double".toList ∨ name = "float".toList then cast (fraction digits)
    else cast (number digits)
  | _ => cast (number digits)

end Draft
end SymbolName
end OperandSearch
