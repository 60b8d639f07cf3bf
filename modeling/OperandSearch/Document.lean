import OperandSearch.Text.Numeral

/-!
# Documents

The structured form in which a report can be handed to another program: texts,
natural numbers, lists, and objects whose fields keep the order they are given in.
A document is printed as JSON, either without any space (`compact`) or with one
field or item a line, indented by two spaces a level (`pretty`).  Both print an
empty list as `[]` and an empty object as two braces.

In a printed text a quote, a backslash and the control characters are escaped and
all else stands for itself, so a document can be read back from either form.
-/

namespace OperandSearch

/-- A structured value. -/
inductive Document where
  | text (s : String)
  | number (n : Nat)
  | list (items : List Document)
  | object (fields : List (String × Document))

namespace Document

/-- The four digits of a numeric escape, for code points below `0x10000`. -/
def escapeDigits (n : Nat) : List Char :=
  List.replicate (4 - (Nat.toDigits 16 n).length) '0' ++ Nat.toDigits 16 n

/-- A character inside a printed text. -/
def escapeChar (c : Char) : List Char :=
  if c = '"' then ['\\', '"']
  else if c = '\\' then ['\\', '\\']
  else if c = '\x08' then ['\\', 'b']
  else if c = '\x0c' then ['\\', 'f']
  else if c = '\n' then ['\\', 'n']
  else if c = '\r' then ['\\', 'r']
  else if c = '\t' then ['\\', 't']
  else if c.toNat < 0x20 then '\\' :: 'u' :: escapeDigits c.toNat
  else [c]

/-- A printed text. -/
def printText (s : String) : List Char :=
  '"' :: s.toList.flatMap escapeChar ++ ['"']

mutual

/-- A document without any space. -/
def compactChars : Document → List Char
  | text s => printText s
  | number n => Nat.toDigits 10 n
  | list items => '[' :: compactItems items ++ [']']
  | object fields => '\x7b' :: compactFields fields ++ ['\x7d']

/-- Items with commas between them. -/
def compactItems : List Document → List Char
  | [] => []
  | item :: rest =>
    compactChars item ++ if rest.isEmpty then [] else ',' :: compactItems rest

/-- Fields with commas between them. -/
def compactFields : List (String × Document) → List Char
  | [] => []
  | (key, value) :: rest =>
    printText key ++ ':' :: compactChars value ++
      if rest.isEmpty then [] else ',' :: compactFields rest

end

/-- The start of a line at a level of indentation. -/
def newLine (level : Nat) : List Char :=
  '\n' :: List.replicate (2 * level) ' '

mutual

/-- A document at a level of indentation, one item or field a line. -/
def prettyChars (level : Nat) : Document → List Char
  | text s => printText s
  | number n => Nat.toDigits 10 n
  | list items =>
    if items.isEmpty then ['[', ']']
    else '[' :: prettyItems (level + 1) items ++ newLine level ++ [']']
  | object fields =>
    if fields.isEmpty then ['\x7b', '\x7d']
    else '\x7b' :: prettyFields (level + 1) fields ++ newLine level ++ ['\x7d']

/-- Items, each on a line of its own. -/
def prettyItems (level : Nat) : List Document → List Char
  | [] => []
  | item :: rest =>
    newLine level ++ prettyChars level item ++
      if rest.isEmpty then [] else ',' :: prettyItems level rest

/-- Fields, each on a line of its own. -/
def prettyFields (level : Nat) : List (String × Document) → List Char
  | [] => []
  | (key, value) :: rest =>
    newLine level ++ printText key ++ ':' :: ' ' :: prettyChars level value ++
      if rest.isEmpty then [] else ',' :: prettyFields level rest

end

/-- A document as JSON without any space. -/
def compact (d : Document) : String :=
  String.ofList (compactChars d)

/-- A document as JSON with one item or field a line. -/
def pretty (d : Document) : String :=
  String.ofList (prettyChars 0 d)

end Document
end OperandSearch
