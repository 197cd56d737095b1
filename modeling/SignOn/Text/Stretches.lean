import SignOn.Text.Blank
import SignOn.Text.Number

/-
This file keeps what is known about many characters in stretches, and finds the stretch of a character.
-/

namespace SignOn.Text

/-- The codes from the first to the last one in steps, with values that are the same for all of them. -/
structure Stretch where
  first : Nat
  last : Nat
  step : Nat
  values : List Nat
  deriving DecidableEq, Repr

namespace Stretch

def contains (stretch : Stretch) (code : Nat) : Bool :=
  stretch.first ≤ code && code ≤ stretch.last && (code - stretch.first) % stretch.step == 0

def hexNumber (characters : List Char) : Nat :=
  characters.foldl (fun value character => value * 16 + (digitValue? 16 character).getD 0) 0

/-- A hyphen stands between the ends of a stretch, or a tilde when every other code is left out. -/
def ofEnds (characters : List Char) (values : List Nat) : Stretch :=
  match splitFirst? '-' characters, splitFirst? '~' characters with
  | some (first, last), _ => ⟨hexNumber first, hexNumber last, 1, values⟩
  | none, some (first, last) => ⟨hexNumber first, hexNumber last, 2, values⟩
  | none, none => ⟨hexNumber characters, hexNumber characters, 1, values⟩

/-- Values stand behind a mark and are parted by full stops. -/
def ofWord (characters : List Char) : Stretch :=
  match splitFirst? '>' characters with
  | none => ofEnds characters []
  | some (ends, []) => ofEnds ends []
  | some (ends, values) => ofEnds ends ((pieces (· == '.') values).map hexNumber)

end Stretch

/-- A table lists the stretches of the characters that have something in common. -/
structure Stretches where
  toArray : Array Stretch

namespace Stretches

/-- A table is written in rows, with blanks between its stretches. -/
def ofRows (rows : Array String) : Stretches :=
  ⟨rows.flatMap fun row => ((pieces (· == ' ') row.toList).map Stretch.ofWord).toArray⟩

/-- The first stretch that holds a code counts. -/
def find? (table : Stretches) (code : Nat) : Option Stretch :=
  table.toArray.find? (·.contains code)

def contains (table : Stretches) (character : Char) : Bool :=
  (table.find? character.toNat).isSome

end Stretches

end SignOn.Text
