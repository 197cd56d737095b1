import SignOn.Url.Domain.Direction
import SignOn.Url.Domain.Joining
import SignOn.Url.Domain.Mapping
import SignOn.Url.Punycode

/-
This file reads the labels of names and writes them in ASCII.
-/

namespace SignOn.Url.Domain

/-- A label has a form for its readers and a form in ASCII. -/
structure Label where
  shown : List Char
  ascii : List Char
  deriving DecidableEq, Repr

namespace Label

/-- Behind this opening a label in another script is written in ASCII. -/
def opening : List Char := ['x', 'n', '-', '-']

/-- A label that is written behind the opening has at most so many characters there. -/
def encodedLimit : Nat := 2000

/-- A label in another script has at most so many characters. -/
def shownLimit : Nat := 1000

/-- No mark comes first, and joiners stand only where they change something. -/
def isWellFormed (shown : List Char) : Bool :=
  shown.length ≤ shownLimit && !shown.head?.any isMark && areJoinersPlaced [] shown

/-- A label behind the opening must be one that is written there. -/
def decode? (encoded : List Char) : Option Label :=
  if encodedLimit < encoded.length then none
  else
    match Punycode.decode? encoded with
    | none => none
    | some shown =>
      if shown.all Punycode.isBasic || !shown.all isSettled || normalForm shown != shown ||
          !isWellFormed shown then none
      else some ⟨shown, opening ++ encoded⟩

/-- A label of mapped characters is written as it is when it is in ASCII. -/
def read? (characters : List Char) : Option Label :=
  if opening.isPrefixOf characters then
    if characters.all Punycode.isBasic then decode? (characters.drop opening.length) else none
  else if characters.all Punycode.isBasic then some ⟨characters, characters⟩
  else if isWellFormed characters then some ⟨characters, opening ++ Punycode.encode characters⟩
  else none

end Label

end SignOn.Url.Domain
