import SignOn.Url.Domain.Label

/-
This file reads the names of web hosts and writes them in ASCII.
-/

namespace SignOn.Url.Domain

open SignOn.Text

/-- Controls and the characters that have a meaning in an address have no place in a name. -/
def isForbidden (character : Char) : Bool :=
  character.toNat ≤ 0x20 || character.toNat == 0x7F ||
    ['%', '#', '/', ':', '<', '>', '?', '@', '[', '\\', ']', '^', '|'].contains character

/-- A name is mapped and put into its normal form before it is cut into labels. -/
def labels? (characters : List Char) : Option (List Label) := do
  let name := normalForm (← mapped? characters)
  if name.any isForbidden then none
  let labels ← (pieces (· == '.') name).mapM Label.read?
  if areReadable (labels.map Label.shown) then some labels else none

/-- Full stops stand between the labels. -/
def ascii? (characters : List Char) : Option (List Char) :=
  (labels? characters).map fun labels => List.intercalate ['.'] (labels.map Label.ascii)

end SignOn.Url.Domain
