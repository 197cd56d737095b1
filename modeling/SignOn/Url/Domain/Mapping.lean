import SignOn.Url.Domain.Table.Kept
import SignOn.Url.Domain.Table.Replacement

/-
This file tells what is written for each character of a name.
-/

namespace SignOn.Url.Domain

open SignOn.Text

/-- Along a stretch the first of the characters that are written moves on and the others stay. -/
def shifted (distance : Nat) : List Nat → List Char
  | [] => []
  | first :: others => ((first + distance) :: others).map Char.ofNat

/-- ASCII letters are lowered, and other characters are kept, replaced, left out or refused. -/
def written? (character : Char) : Option (List Char) :=
  if character.toNat < 0x80 then some [character.toLower]
  else
    match Table.replacements.find? character.toNat with
    | some stretch => some (shifted (character.toNat - stretch.first) stretch.values)
    | none => if Table.kept.contains character then some [character] else none

/-- A character is settled when it is written as itself. -/
def isSettled (character : Char) : Bool := written? character == some [character]

def mapped? (characters : List Char) : Option (List Char) :=
  (characters.mapM written?).map List.flatten

end SignOn.Url.Domain
