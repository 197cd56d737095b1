import SignOn.Text.Number

/-
This file makes up identifiers for requests.
-/

namespace SignOn

open SignOn.Text

/-- An identifier is always the same or is drawn anew for every request. -/
inductive IdentifierSource
  | fixed (identifier : String)
  | drawn
  deriving DecidableEq, Repr

namespace IdentifierSource

/-- A drawn identifier shows 128 random bits behind a mark that lets it start a name. -/
def next (source : IdentifierSource) (randomBits : BitVec 128) : String :=
  match source with
  | .fixed identifier => identifier
  | .drawn => String.ofList ('_' :: hexColumns randomBits.toNat 32)

end IdentifierSource

end SignOn
