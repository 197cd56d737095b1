import SignOn.Text.Blank
import SignOn.Text.Number
import SignOn.Text.Utf8

/-
This file writes and reads lists of name and value in the encoding of web forms.
-/

namespace SignOn.Form

open SignOn.Text

/-- These characters stand for themselves. -/
def isPlain (character : Char) : Bool :=
  character.isAlphanum || character == '*' || character == '-' || character == '.' ||
    character == '_'

def escapedByte (byte : UInt8) : List Char :=
  ['%', upperHexDigit (byte.toNat / 16), upperHexDigit (byte.toNat % 16)]

/-- A space becomes a plus sign, and other special characters show the bytes of their UTF-8 form. -/
def encodeCharacter (character : Char) : List Char :=
  if isPlain character then [character]
  else if character = ' ' then ['+']
  else (String.utf8EncodeChar character).flatMap escapedByte

def encodeText (text : String) : List Char :=
  text.toList.flatMap encodeCharacter

def encodePair (pair : String × String) : List Char :=
  encodeText pair.1 ++ '=' :: encodeText pair.2

/-- Pairs are joined by ampersands. -/
def encode (pairs : List (String × String)) : String :=
  String.ofList (List.intercalate ['&'] (pairs.map encodePair))

def unplus (byte : UInt8) : UInt8 :=
  if byte = 0x2B then 0x20 else byte

def hexByte? (high low : UInt8) : Option UInt8 :=
  match digitValue? 16 (Char.ofNat high.toNat), digitValue? 16 (Char.ofNat low.toNat) with
  | some upper, some lower => some (UInt8.ofNat (upper * 16 + lower))
  | _, _ => none

/-- A percent sign without two hexadecimal digits after it stands for itself. -/
def unescape (newestFirst : List UInt8) : List UInt8 → List UInt8
  | 0x25 :: high :: low :: rest =>
    match hexByte? high low with
    | some byte => unescape (byte :: newestFirst) rest
    | none => unescape (0x25 :: newestFirst) (high :: low :: rest)
  | byte :: rest => unescape (byte :: newestFirst) rest
  | [] => newestFirst.reverse

def decodeText (characters : List Char) : String :=
  String.ofList (Utf8.decode (unescape [] ((Utf8.encode characters).map unplus)))

/-- A pair without an equals sign has the empty value. -/
def decodePair (characters : List Char) : String × String :=
  match splitFirst? '=' characters with
  | none => (decodeText characters, "")
  | some (name, value) => (decodeText name, decodeText value)

/-- Empty stretches between ampersands hold no pair. -/
def decode (text : String) : List (String × String) :=
  ((pieces (· == '&') text.toList).filter fun piece => !piece.isEmpty).map decodePair

end SignOn.Form
