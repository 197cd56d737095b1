import SignOn.Text.Number

/-
This file writes words of any characters in letters, digits and hyphens, and reads them back.
-/

namespace SignOn.Url.Punycode

open SignOn.Text

/-- Letters stand for the digits below 26 and figures for the others. -/
def digit (value : Nat) : Char :=
  if value < 26 then Char.ofNat (0x61 + value) else Char.ofNat (0x30 + (value - 26))

def digitValue? (character : Char) : Option Nat :=
  let code := character.toNat
  if 0x61 ≤ code ∧ code ≤ 0x7A then some (code - 0x61)
  else if 0x41 ≤ code ∧ code ≤ 0x5A then some (code - 0x41)
  else if 0x30 ≤ code ∧ code ≤ 0x39 then some (code - 0x30 + 26)
  else none

/-- The last digit of a number is the first one below its threshold. -/
def threshold (position bias : Nat) : Nat :=
  if position ≤ bias then 1 else if bias + 26 ≤ position then 26 else position - bias

theorem threshold_pos (position bias : Nat) : 1 ≤ threshold position bias := by
  unfold threshold
  split
  · omega
  · split <;> omega

def adaptOnto (bias delta : Nat) : Nat :=
  if 455 < delta then adaptOnto (bias + 36) (delta / 35) else bias + 36 * delta / (delta + 38)
termination_by delta
decreasing_by omega

/-- The bias follows the distances between the characters written so far. -/
def adapt (delta written : Nat) (isFirst : Bool) : Nat :=
  let damped := if isFirst then delta / 700 else delta / 2
  adaptOnto 0 (damped + damped / written)

def encodeNumber (bias position number : Nat) : List Char :=
  let least := threshold position bias
  if number < least then [digit number]
  else
    digit (least + (number - least) % (36 - least)) ::
      encodeNumber bias (position + 36) ((number - least) / (36 - least))
termination_by number
decreasing_by
  have positive := threshold_pos position bias
  have := Nat.div_le_self (number - threshold position bias) (36 - threshold position bias)
  omega

/-- What is left of a word when its characters are written in ascending order. -/
structure Writing where
  newestFirst : List (List Char)
  delta : Nat
  bias : Nat
  written : Nat

/-- A smaller character is passed, and the current one is written as the distance to it. -/
def Writing.visit (basicCount current : Nat) (writing : Writing) (character : Char) : Writing :=
  if character.toNat < current then { writing with delta := writing.delta + 1 }
  else if character.toNat = current then
    { newestFirst := encodeNumber writing.bias 36 writing.delta :: writing.newestFirst
      delta := 0
      bias := adapt writing.delta (writing.written + 1) (writing.written == basicCount)
      written := writing.written + 1 }
  else writing

def Writing.advance (word : List Char) (basicCount : Nat) (state : Writing × Nat)
    (current : Nat) : Writing × Nat :=
  let (writing, reached) := state
  let started := { writing with delta := writing.delta + (current - reached) * (writing.written + 1) }
  let passed := word.foldl (Writing.visit basicCount current) started
  ({ passed with delta := passed.delta + 1 }, current + 1)

def isBasic (character : Char) : Bool := character.toNat < 0x80

def encode (word : List Char) : List Char :=
  let basic := word.filter isBasic
  let others := ((word.filter (!isBasic ·)).map Char.toNat).eraseDups.mergeSort
  let (writing, _) :=
    others.foldl (Writing.advance word basic.length) (⟨[], 0, 72, basic.length⟩, 0x80)
  basic ++ (if basic.isEmpty then [] else ['-']) ++ writing.newestFirst.reverse.flatten

/-- Numbers and the weights of their digits stay below this limit. -/
def limit : Nat := 0x100000000

/-- A number is read up to its last digit. -/
def decodeNumber? (bias position weight value : Nat) : List Char → Option (Nat × List Char)
  | [] => none
  | character :: rest =>
    match digitValue? character with
    | none => none
    | some digit =>
      let least := threshold position bias
      if limit ≤ value + digit * weight then none
      else if digit < least then some (value + digit * weight, rest)
      else if limit ≤ weight * (36 - least) then none
      else decodeNumber? bias (position + 36) (weight * (36 - least)) (value + digit * weight) rest

theorem length_of_decodeNumber? {bias position weight value number : Nat}
    {characters rest : List Char}
    (read : decodeNumber? bias position weight value characters = some (number, rest)) :
    rest.length < characters.length := by
  induction characters generalizing position weight value with
  | nil => simp [decodeNumber?] at read
  | cons character tail inductionHypothesis =>
      unfold decodeNumber? at read
      split at read
      · simp at read
      · simp only at read
        split at read
        · simp at read
        · split at read
          · obtain ⟨-, rfl⟩ := Prod.mk.inj (Option.some.inj read)
            simp
          · split at read
            · simp at read
            · have := inductionHypothesis read
              simp
              omega

/-- Each number tells which character comes next and where it belongs. -/
def decodeOnto (word : List Char) (code index bias : Nat) (characters : List Char) :
    Option (List Char) :=
  if characters.isEmpty then some word
  else
    match _read : decodeNumber? bias 36 1 index characters with
    | none => none
    | some (number, rest) =>
      let count := word.length + 1
      let next := code + number / count
      let place := number % count
      if next.isValidChar then
        decodeOnto (word.insertIdx place (Char.ofNat next)) next (place + 1)
          (adapt (number - index) count (index == 0)) rest
      else none
termination_by characters.length
decreasing_by exact length_of_decodeNumber? (by assumption)

/-- The last hyphen separates the basic characters from the numbers, and stands only behind basic characters. -/
def decode? (characters : List Char) : Option (List Char) :=
  let numbers := (characters.reverse.takeWhile (· != '-')).reverse
  let marked := characters.take (characters.length - numbers.length)
  if marked = ['-'] then none else decodeOnto marked.dropLast 0x80 0 72 numbers

end SignOn.Url.Punycode
