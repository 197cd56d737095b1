import SignOn.Text.Blank
import SignOn.Time.Instant

/-
This file reads timestamps such as 2024-05-01T12:00:00.5+02:00.
-/

namespace SignOn.Timestamp

open SignOn.Text

/-- ASCII digits alone are digits. -/
def digits? (count value : Nat) (characters : List Char) : Option (Nat × List Char) :=
  match count, characters with
  | 0, _ => some (value, characters)
  | _ + 1, [] => none
  | count + 1, character :: rest =>
    match digitValue? 10 character with
    | none => none
    | some digit => digits? count (value * 10 + digit) rest

def expect? (isExpected : Char → Bool) : List Char → Option (List Char)
  | [] => none
  | character :: rest => if isExpected character then some rest else none

/-- Missing digits up to the ninth are zeros, and digits after it do not count. -/
def fractionNanos (digits : List Char) : Nat :=
  ((digits ++ List.replicate 9 '0').take 9).foldl
    (fun value digit => value * 10 + (digitValue? 10 digit).getD 0) 0

/-- A point needs a digit after it, and without a point the fraction is zero. -/
def fraction? (characters : List Char) : Option (Nat × List Char) :=
  match characters with
  | '.' :: rest =>
    let digits := rest.takeWhile Char.isDigit
    if digits.isEmpty then none
    else some (fractionNanos digits, rest.dropWhile Char.isDigit)
  | _ => some (0, characters)

/-- An offset tells how many minutes the clock of the timestamp is ahead. -/
def offset? (characters : List Char) : Option Int :=
  match characters with
  | ['Z'] => some 0
  | ['z'] => some 0
  | sign :: rest => do
    let direction ←
      if sign = '+' then some (1 : Int)
      else if sign = '-' ∨ sign = '\u2212' then some (-1)
      else none
    let (hours, rest) ← digits? 2 0 rest
    let rest ← expect? (· == ':') rest
    let (minutes, rest) ← digits? 2 0 rest
    if rest.isEmpty ∧ hours ≤ 23 ∧ minutes ≤ 59 then
      some (direction * (hours * 60 + minutes : Nat))
    else none
  | [] => none

/-- The sixtieth second is the leap second that continues the one before it. -/
def instant? (date : Date) (hour minute second nanos : Nat) (offsetMinutes : Int) :
    Option Instant :=
  if date.isValid ∧ hour ≤ 23 ∧ minute ≤ 59 ∧ second ≤ 60 then
    let isLeap := second = 60
    let parts : Nat := hour * 3600 + minute * 60 + (if isLeap then 59 else second)
    let total := date.toDayNumber * 86400 + parts - offsetMinutes * 60
    let counted := nanos + if isLeap then 1000000000 else 0
    if bounded : counted < 2000000000 then some ⟨total, counted, bounded⟩ else none
  else none

def readCharacters? (characters : List Char) : Option Instant := do
  let (year, rest) ← digits? 4 0 characters
  let rest ← expect? (· == '-') rest
  let (month, rest) ← digits? 2 0 rest
  let rest ← expect? (· == '-') rest
  let (day, rest) ← digits? 2 0 rest
  let rest ← expect? (fun character => character == 'T' || character == 't' || character == ' ') rest
  let (hour, rest) ← digits? 2 0 rest
  let rest ← expect? (· == ':') rest
  let (minute, rest) ← digits? 2 0 rest
  let rest ← expect? (· == ':') rest
  let (second, rest) ← digits? 2 0 rest
  let (nanos, rest) ← fraction? rest
  let offsetMinutes ← offset? rest
  instant? ⟨year, month, day⟩ hour minute second nanos offsetMinutes

/-- Blank characters around a timestamp do not count. -/
def read? (text : String) : Option Instant :=
  readCharacters? (strip isBlank text.toList)

end SignOn.Timestamp
