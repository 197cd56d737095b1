import SignOn.Text.Number
import SignOn.Text.Visible

/-
This file writes values so that a reader of a log can tell where each one ends.
-/

namespace SignOn.Text

/-- Hidden characters without a name show their code in braces. -/
def quotedCharacter (character : Char) : List Char :=
  if character = '"' then ['\\', '"']
  else if character = '\\' then ['\\', '\\']
  else if character = '\n' then ['\\', 'n']
  else if character = '\r' then ['\\', 'r']
  else if character = '\t' then ['\\', 't']
  else if character = '\x00' then ['\\', '0']
  else if isHidden character then
    ['\\', 'u', '\x7b'] ++ Nat.toDigits 16 character.toNat ++ ['\x7d']
  else [character]

/-- A text stands between quotes, and what could be misread in it is escaped. -/
def quoted (text : String) : String :=
  String.ofList ('"' :: text.toList.flatMap quotedCharacter ++ ['"'])

/-- The elements of a list stand between brackets. -/
def listed (elements : List String) : String :=
  "[" ++ String.intercalate ", " elements ++ "]"

/-- The entries of a map stand between braces, each name before its value. -/
def mapped (entries : List (String × String)) : String :=
  "\x7b" ++ String.intercalate ", " (entries.map fun entry => entry.1 ++ ": " ++ entry.2) ++ "\x7d"

/-- A record names itself and its fields. -/
def recorded (name : String) (fields : List (String × String)) : String :=
  name ++ " \x7b " ++
    String.intercalate ", " (fields.map fun field => field.1 ++ ": " ++ field.2) ++ " \x7d"

/-- A name is put before a single value in parentheses. -/
def wrapped (name value : String) : String :=
  name ++ "(" ++ value ++ ")"

/-- A value that may be missing says whether it is there. -/
def perhaps : Option String → String
  | none => "None"
  | some value => wrapped "Some" value

end SignOn.Text
