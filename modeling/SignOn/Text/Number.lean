/-
This file reads and writes natural numbers in a fixed number of bits or columns.
-/

namespace SignOn.Text

inductive NumberFault
  | empty
  | invalidDigit
  | tooLarge
  deriving DecidableEq, Repr

def NumberFault.message : NumberFault → String
  | .empty => "cannot parse integer from empty string"
  | .invalidDigit => "invalid digit found in string"
  | .tooLarge => "number too large to fit in target type"

/-- A digit has its value in a base, and letters count from ten in either case. -/
def digitValue? (base : Nat) (character : Char) : Option Nat :=
  let code := character.toNat
  let value :=
    if 0x30 ≤ code ∧ code ≤ 0x39 then some (code - 0x30)
    else if 0x41 ≤ code ∧ code ≤ 0x5A then some (code - 0x41 + 10)
    else if 0x61 ≤ code ∧ code ≤ 0x7A then some (code - 0x61 + 10)
    else none
  value.filter (· < base)

/-- Digits are read from the left, and the first fault met is reported. -/
def readDigits (limit value : Nat) : List Char → Except NumberFault Nat
  | [] => .ok value
  | character :: rest =>
    match digitValue? 10 character with
    | none => .error .invalidDigit
    | some digit =>
      let next := value * 10 + digit
      if next < limit then readDigits limit next rest else .error .tooLarge

/-- A number below the limit is written in decimal digits with at most one plus sign before them. -/
def readNumber (limit : Nat) (characters : List Char) : Except NumberFault Nat :=
  match characters with
  | [] => .error .empty
  | ['+'] => .error .invalidDigit
  | '+' :: digits => readDigits limit 0 digits
  | digits => readDigits limit 0 digits

/-- A number of sixteen bits is below this limit. -/
def limit16 : Nat := 0x10000

/-- A number of sixty-four bits is below this limit. -/
def limit64 : Nat := 0x10000000000000000

/-- Zeros are put before a number until it fills its columns. -/
def padded (columns value : Nat) : String :=
  let digits := Nat.toDigits 10 value
  String.ofList (List.replicate (columns - digits.length) '0' ++ digits)

def upperHexDigit (value : Nat) : Char :=
  if value < 10 then Char.ofNat (0x30 + value) else Char.ofNat (0x41 + (value - 10))

def lowerHexDigit (value : Nat) : Char :=
  if value < 10 then Char.ofNat (0x30 + value) else Char.ofNat (0x61 + (value - 10))

/-- A number is written in exactly so many lower-case hexadecimal digits, its lowest ones. -/
def hexColumns (value : Nat) : Nat → List Char
  | 0 => []
  | columns + 1 => hexColumns (value / 16) columns ++ [lowerHexDigit (value % 16)]

end SignOn.Text
