import SignOn.Text.Number

/-
This file writes characters that have a meaning in markup as references and reads references back.
-/

namespace SignOn.Markup

open SignOn.Text

/-- The five characters that could be taken for markup have names. -/
def escapeCharacter : Char → List Char
  | '<' => ['&', 'l', 't', ';']
  | '>' => ['&', 'g', 't', ';']
  | '&' => ['&', 'a', 'm', 'p', ';']
  | '\'' => ['&', 'a', 'p', 'o', 's', ';']
  | '"' => ['&', 'q', 'u', 'o', 't', ';']
  | character => [character]

def escape (characters : List Char) : List Char :=
  characters.flatMap escapeCharacter

/-- Digits in a base spell a number, and at least one digit is needed. -/
def spelledNumber? (base : Nat) (digits : List Char) : Option Nat :=
  if digits.isEmpty then none
  else digits.foldlM (fun value digit => (digitValue? base digit).map (value * base + ·)) 0

/-- A number names a character unless it is zero or a surrogate, or lies above the last character. -/
def numberedCharacter? (number : Nat) : Option Char :=
  if number ≠ 0 ∧ number.isValidChar then some (Char.ofNat number) else none

/-- A reference has one of five names or the number of its character. -/
def referenced? : List Char → Option Char
  | ['l', 't'] => some '<'
  | ['g', 't'] => some '>'
  | ['a', 'm', 'p'] => some '&'
  | ['a', 'p', 'o', 's'] => some '\''
  | ['q', 'u', 'o', 't'] => some '"'
  | '#' :: 'x' :: digits => (spelledNumber? 16 digits).bind numberedCharacter?
  | '#' :: digits => (spelledNumber? 10 digits).bind numberedCharacter?
  | _ => none

/-- References are replaced from the left; the name of an open one is kept until its semicolon. -/
def unescapeOnto (newestFirst : List Char) (openName : Option (List Char)) :
    List Char → Option (List Char)
  | [] =>
    match openName with
    | none => some newestFirst.reverse
    | some _ => none
  | character :: rest =>
    match openName with
    | none =>
      if character = '&' then unescapeOnto newestFirst (some []) rest
      else unescapeOnto (character :: newestFirst) none rest
    | some name =>
      if character = ';' then
        match referenced? name.reverse with
        | none => none
        | some meant => unescapeOnto (meant :: newestFirst) none rest
      else if character = '&' then none
      else unescapeOnto newestFirst (some (character :: name)) rest

/-- Every ampersand must begin a reference that is known. -/
def unescape? (characters : List Char) : Option (List Char) :=
  unescapeOnto [] none characters

end SignOn.Markup
