import SignOn.Text.Utf8

/-
This file holds the text that a decoder has produced so far.
-/

namespace SignOn.Charset

open SignOn.Text

/-- The newest character comes first, and a mark is kept once anything was replaced. -/
structure Decoding where
  newestFirst : List Char
  replaced : Bool
  deriving DecidableEq, Repr

namespace Decoding

def start : Decoding := ⟨[], false⟩

def push (decoding : Decoding) (character : Char) : Decoding :=
  { decoding with newestFirst := character :: decoding.newestFirst }

def pushReplacement (decoding : Decoding) : Decoding :=
  ⟨Utf8.replacement :: decoding.newestFirst, true⟩

def pushOrReplace (decoding : Decoding) : Option Char → Decoding
  | some character => decoding.push character
  | none => decoding.pushReplacement

def characters (decoding : Decoding) : List Char := decoding.newestFirst.reverse

end Decoding

end SignOn.Charset
