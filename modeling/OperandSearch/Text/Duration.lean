import OperandSearch.Text.Numeral

/-!
# Durations

A span of time in the largest of four units of which it is at least one, with two
places behind the point; a half goes up.
-/

namespace OperandSearch
namespace Text

/-- A number of hundredths with its point. -/
def hundredths (n : Nat) : String :=
  Numeral.decimal (n / 100) ++ "." ++ Numeral.padZeros 2 (Numeral.decimal (n % 100))

/-- A span of nanoseconds. -/
def duration (nanoseconds : Nat) : String :=
  let inUnit (unit : Nat) (name : String) : String :=
    hundredths ((200 * nanoseconds + unit) / (2 * unit)) ++ name
  if 1000000000 ≤ nanoseconds then inUnit 1000000000 "s"
  else if 1000000 ≤ nanoseconds then inUnit 1000000 "ms"
  else if 1000 ≤ nanoseconds then inUnit 1000 "µs"
  else inUnit 1 "ns"

end Text
end OperandSearch
