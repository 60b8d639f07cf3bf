/-!
# Words in byte sequences

Numbers of several bytes, in either order of significance, and their place inside a
record of bytes.  A field that reaches past the end of its record reads the missing
bytes as absent; every caller makes sure first that the record is long enough.
-/

namespace OperandSearch

/-- The order in which the bytes of a word are stored. -/
inductive ByteOrder where
  /-- The least significant byte first. -/
  | little
  /-- The most significant byte first. -/
  | big
  deriving DecidableEq, Repr

namespace Bytes

/-- The number that bytes store, least significant first. -/
def littleEndian : List UInt8 → Nat
  | [] => 0
  | b :: bs => b.toNat + 256 * littleEndian bs

/-- The number that bytes store in an order. -/
def value (order : ByteOrder) (bytes : List UInt8) : Nat :=
  match order with
  | .little => littleEndian bytes
  | .big => littleEndian bytes.reverse

/-- The number stored in `size` bytes from `offset` on. -/
def field (order : ByteOrder) (record : List UInt8) (offset size : Nat) : Nat :=
  value order ((record.drop offset).take size)

/-- The number with the same `bits` lowest bits that lies from `-2 ^ (bits - 1)` up to
`2 ^ (bits - 1) - 1`: the reading of a word as two's complement. -/
def signed (bits n : Nat) : Int :=
  (n : Int).bmod (1 <<< bits)

/-- The first `count` records of `size` bytes. -/
def split (size : Nat) : Nat → List UInt8 → List (List UInt8)
  | 0, _ => []
  | count + 1, table => table.take size :: split size count (table.drop size)

/-- The records of `size` bytes that a table holds; a remainder too short for a record
is ignored. -/
def records (size : Nat) (table : List UInt8) : List (List UInt8) :=
  split size (table.length / size) table

/-- The text that bytes encode, if they are well-formed UTF-8. -/
def text? (bytes : List UInt8) : Option String :=
  String.fromUTF8? ⟨bytes.toArray⟩

end Bytes
end OperandSearch
