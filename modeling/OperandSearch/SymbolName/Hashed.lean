import OperandSearch.SymbolName.Suffix
import OperandSearch.Text.Numeral

/-!
# Paths that end in a hash

The older of the two path encodings: elements between `_ZN` and `E`, each behind its
length in decimal.  Characters that a linker might not accept are written between
dollar signs inside an element, and two periods stand for the path separator.  The last
element may be a hash that tells apart two versions of one function; it is left out.

An element is decoded as far as it makes sense.  From the first escape that means
nothing on, the rest of the element is copied as it is.
-/

namespace OperandSearch
namespace SymbolName
namespace Hashed

/-- What stands behind the start of an encoded path, if it is one. -/
def body? : List Char → Option (List Char)
  | '_' :: 'Z' :: 'N' :: cs => some cs
  | 'Z' :: 'N' :: cs => some cs
  | '_' :: '_' :: 'Z' :: 'N' :: cs => some cs
  | _ => none

/-- The number that decimal digits write. -/
def lengthOf (digits : List Char) : Nat :=
  Nat.ofDigitChars 10 digits 0

/-- The elements up to the `E` that ends them, and what stands behind it.  An element
must have something behind it. -/
def elements? (cs : List Char) : Option (List (List Char) × List Char) :=
  match cs with
  | [] => none
  | c :: rest =>
    if c = 'E' then some ([], rest)
    else if c.isDigit then
      let behind := rest.dropWhile Char.isDigit
      let length := lengthOf (c :: rest.takeWhile Char.isDigit)
      if length < behind.length then
        (elements? (behind.drop length)).map fun parts => (behind.take length :: parts.1, parts.2)
      else none
    else none
termination_by cs.length
decreasing_by
  have := (List.dropWhile_sublist (l := rest) Char.isDigit).length_le
  simp only [List.length_drop, List.length_cons]
  omega

/-- Whether an element is a hash: the letter `h` and hexadecimal digits, possibly none. -/
def isHash : List Char → Bool
  | 'h' :: digits => digits.all Radix.hexadecimal.isDigit
  | _ => false

/-- Whether a character is a control character. -/
def isControl (c : Char) : Bool :=
  c.toNat < 0x20 || (0x7f ≤ c.toNat && c.toNat < 0xa0)

/-- The character an escape of lower-case hexadecimal digits stands for. -/
def codePoint? (digits : List Char) : Option Char :=
  let isLowerHex (c : Char) : Bool := c.isDigit || ('a' ≤ c && c ≤ 'f')
  if digits.isEmpty || !digits.all isLowerHex then none
  else
    let n := digits.foldl (fun n c => 16 * n + (Radix.hexadecimal.digit? c).getD 0) 0
    if h : n.isValidChar then
      let c := Char.ofNatAux n h
      if isControl c then none else some c
    else none

/-- The text an escape stands for. -/
def escaped? (escape : List Char) : Option (List Char) :=
  match escape with
  | ['S', 'P'] => some ['@']
  | ['B', 'P'] => some ['*']
  | ['R', 'F'] => some ['&']
  | ['L', 'T'] => some ['<']
  | ['G', 'T'] => some ['>']
  | ['L', 'P'] => some ['(']
  | ['R', 'P'] => some [')']
  | ['C'] => some [',']
  | 'u' :: digits => (codePoint? digits).map fun c => [c]
  | _ => none

/-- Decodes the characters of an element. -/
def decodeChars (cs : List Char) : List Char :=
  match cs with
  | [] => []
  | '.' :: '.' :: rest => ':' :: ':' :: decodeChars rest
  | '$' :: rest =>
    let behind := rest.dropWhile (· != '$')
    if behind.isEmpty then cs
    else match escaped? (rest.takeWhile (· != '$')) with
      | some text => text ++ decodeChars (behind.drop 1)
      | none => cs
  | c :: rest => c :: decodeChars rest
termination_by cs.length
decreasing_by
  · simp only [List.length_cons]; omega
  · have := (List.dropWhile_sublist (l := rest) (· != '$')).length_le
    simp only [List.length_drop, List.length_cons]
    omega
  · simp

/-- Decodes an element.  An underscore protects an escape at the start. -/
def decodeElement : List Char → List Char
  | '_' :: '$' :: rest => decodeChars ('$' :: rest)
  | cs => decodeChars cs

/-- The elements that are shown: all but a hash at the end. -/
def shown (elements : List (List Char)) : List (List Char) :=
  match elements.getLast? with
  | some last => if isHash last then elements.dropLast else elements
  | none => elements

/-- Elements as they are printed, with the path separator between them. -/
def join (print : List Char → List Char) (elements : List (List Char)) : List Char :=
  [':', ':'].intercalate (elements.map print)

/-- The path a name encodes, with the suffix that is kept. -/
def decode? (name : List Char) : Option (List Char) := do
  let body ← body? name
  if !body.all isAscii then none
  else
    let (elements, suffix) ← elements? body
    if isKeptSuffix suffix then some (join decodeElement (shown elements) ++ suffix) else none

end Hashed
end SymbolName
end OperandSearch
