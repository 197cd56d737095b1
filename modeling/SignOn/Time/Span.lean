import SignOn.Text.Blank
import SignOn.Text.Number

/-
This file measures lengths of time and writes them in the largest unit that fits.
-/

namespace SignOn

/-- A length of time counts whole nanoseconds. -/
structure Span where
  nanos : Nat
  deriving DecidableEq, Repr, Inhabited

namespace Span

open SignOn.Text

def ofSeconds (seconds : Nat) : Span := ⟨seconds * 1000000000⟩

def ofMillis (millis : Nat) : Span := ⟨millis * 1000000⟩

def toSeconds (span : Span) : Nat := span.nanos / 1000000000

def toMillis (span : Span) : Nat := span.nanos / 1000000

/-- A count of units keeps its fraction, in so many columns, without zeros at the end. -/
def decimal (columns unit nanos : Nat) : String :=
  let digits := dropTrailing (· == '0') (padded columns (nanos % unit)).toList
  toString (nanos / unit) ++
    if digits.isEmpty then "" else "." ++ String.ofList digits

/-- The unit is the largest of seconds to nanoseconds that the span reaches. -/
def describe (span : Span) : String :=
  if 1000000000 ≤ span.nanos then decimal 9 1000000000 span.nanos ++ "s"
  else if 1000000 ≤ span.nanos then decimal 6 1000000 span.nanos ++ "ms"
  else if 1000 ≤ span.nanos then decimal 3 1000 span.nanos ++ "µs"
  else toString span.nanos ++ "ns"

end Span

end SignOn
