import OperandSearch.SymbolName.Draft

/-!
# How entities are worded

The text of names and types.  Every node is written into a draft; the number of levels a
node counts for is the number by which its case lowers the depth that is left.

A constructor is called after a word that stands elsewhere in the signature, its leaf.
Where there is none, a signature with a constructor has no text.
-/

namespace OperandSearch
namespace SymbolName

open Draft

mutual

/-- Writes an entity. -/
def Entity.write (leaf? : Option (List Char)) : Nat → Entity → Step
  | _ + 3, .source name, draft => some (draft.put (Entity.sourceText name))
  | _ + 3, .operator symbol, draft =>
    let head := draft.say "operator"
    some ((if symbol.head?.any Char.isAlpha then head.space else head).put symbol)
  | depth + 2, .conversion type, draft =>
    alone (type.write leaf? depth) (draft.say "operator ")
  | _ + 4, .lifetime ends, draft =>
    leaf?.map fun leaf => (if ends then draft.say "~" else draft).put leaf
  | _ + 1, .wellKnown known, draft => some (draft.say known.text)
  | depth + 1, .free word, draft => word.write leaf? depth draft
  | depth + 1, .standard word, draft => word.write leaf? depth (draft.say "std::")
  | depth + 1, .template name, draft => name.write leaf? depth draft
  | depth + 1, .outermost word, draft => word.write leaf? depth draft
  | depth + 1, .member scope word, draft => do
    word.write leaf? depth ((← scope.write leaf? depth draft).say "::")
  | depth + 2, .templated scope args, draft => do
    bracketed (fun arg => arg.write leaf? depth) args (← scope.write leaf? (depth + 1) draft)
  | depth + 1, .path last q object?, draft => do
    let named ← match last with
      | .member scope word => do
        word.write leaf? depth ((← scope.write leaf? depth draft).say "::")
      | _ => last.write leaf? depth draft
    let settled ← match named.take? with
      | some (part, rest) => part.settle leaf? depth rest
      | none => some named
    return settled.close q object?
  | depth + 1, .plain name, draft => name.write leaf? depth draft
  | depth + 2, .applied head args, draft => do
    bracketed (fun arg => arg.write leaf? depth) args (← head.write leaf? (depth + 1) draft)
  | depth + 2, .declared name, draft => name.write leaf? depth draft
  | depth + 2, .appliedType head args, draft => do
    bracketed (fun arg => arg.write leaf? depth) args (← head.write leaf? (depth + 1) draft)
  | _ + 2, .builtin name, draft => some (draft.put name)
  | depth + 1, .pointer type, draft =>
    around .pointer (type.write leaf? depth) (fun part => part.settle leaf? depth) draft
  | depth + 1, .reference type, draft =>
    around .reference (type.write leaf? depth) (fun part => part.settle leaf? depth) draft
  | depth + 1, .moveReference type, draft =>
    around .moveReference (type.write leaf? depth) (fun part => part.settle leaf? depth) draft
  | depth + 1, .qualified q type, draft =>
    around (.qualified q type.isArray) (type.write leaf? depth)
      (fun part => part.settle leaf? depth) draft
  | depth + 3, .function result params q object?, draft =>
    around (.function q object?)
      (around (.parameters params) (result.write leaf? depth)
        (fun part draft => part.settle leaf? depth draft.space))
      (fun part => part.settle leaf? (depth + 1)) draft
  | depth + 2, .array size element, draft =>
    around (.array size) (element.write leaf? depth) (fun part => part.settle leaf? depth) draft
  | _, _, _ => none

/-- Writes an argument. -/
def Argument.write (leaf? : Option (List Char)) : Nat → Argument → Step
  | depth + 1, .type type, draft => type.write leaf? depth draft
  | depth + 2, .constant type digits, draft =>
    Draft.constant (fun type => type.write leaf? depth) type digits draft
  | depth + 1, .pack args, draft => listed (fun arg => arg.write leaf? depth) args draft
  | _, _, _ => none

/-- Writes a part whose place has come.  Of references that follow each other the outermost
is left, and a reference to a named object wins. -/
def Pending.settle (leaf? : Option (List Char)) : Nat → Pending → Step
  | _ + 1, .pointer, draft => some (draft.say "*")
  | _ + 1, .reference, draft => some (draft.collapse "&")
  | _ + 1, .moveReference, draft => some (draft.collapse "&&")
  | _ + 2, .qualified q _, draft => some (draft.qualify q)
  | depth + 1, .array size, draft => arraySize (fun part => part.settle leaf? depth) size draft
  | depth + 2, .parameters params, draft =>
    Draft.parameters (fun part => part.settle leaf? depth) (fun type => type.write leaf? depth)
      params draft
  | depth + 1, .function q object?, draft =>
    if depth = 0 ∧ (!q.isEmpty ∨ object?.isSome) then none else some (draft.close q object?)
  | depth + 2, .signature params false, draft =>
    Draft.parameters (fun part => part.settle leaf? depth) (fun type => type.write leaf? depth)
      params draft
  | depth + 3, .signature params true, draft =>
    Draft.parameters (fun part => part.settle leaf? depth) (fun type => type.write leaf? depth)
      params draft
  | _, _, _ => none

end

end SymbolName
end OperandSearch
