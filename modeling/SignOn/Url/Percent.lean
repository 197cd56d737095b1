import SignOn.Form

/-
This file escapes the characters that have a meaning in a part of an address.
-/

namespace SignOn.Url

open SignOn.Text

/-- Controls and all characters beyond ASCII are escaped everywhere. -/
def escapesControl (character : Char) : Bool :=
  character.toNat < 0x20 || 0x7F ≤ character.toNat

def isOneOf (characters : List Char) (character : Char) : Bool := characters.contains character

def escapesInFragment (character : Char) : Bool :=
  escapesControl character || isOneOf [' ', '"', '<', '>', '\x60'] character

def escapesInPath (character : Char) : Bool :=
  escapesInFragment character || isOneOf ['#', '?', '\x7b', '\x7d'] character

def escapesInUserinfo (character : Char) : Bool :=
  escapesInPath character ||
    isOneOf ['/', ':', ';', '=', '@', '[', '\\', ']', '^', '|'] character

/-- A quote is escaped only in the queries of web addresses. -/
def escapesInQuery (isSpecial : Bool) (character : Char) : Bool :=
  escapesControl character || isOneOf [' ', '"', '#', '<', '>'] character ||
    isSpecial && character == '\''

/-- An escaped character shows the bytes of its UTF-8 form. -/
def percentEncode (escapes : Char → Bool) (characters : List Char) : List Char :=
  characters.flatMap fun character =>
    if escapes character then (String.utf8EncodeChar character).flatMap Form.escapedByte
    else [character]

/-- The bytes behind a text with escapes must be UTF-8. -/
def percentDecode? (characters : List Char) : Option (List Char) :=
  let reading := Utf8.read (Form.unescape [] (Utf8.encode characters))
  if reading.replaced then none else some reading.characters

end SignOn.Url
