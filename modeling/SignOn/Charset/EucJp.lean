import SignOn.Charset.Decoding
import SignOn.Charset.Rows
import SignOn.Charset.Table.Jis0208
import SignOn.Charset.Table.Jis0212

/-
This file decodes EUC-JP, in which a character takes up to three bytes.
-/

namespace SignOn.Charset.EucJp

/-- How much of a character was read, and in which of the two tables it will be found. -/
inductive Progress
  | between
  | lead (first : UInt8)
  | extended (second : UInt8)
  deriving DecidableEq, Repr

/-- A byte of ASCII that ends no character is a character of its own. -/
def finish (decoding : Decoding) (found : Option Char) (byte : UInt8) : Decoding :=
  match found with
  | some character => decoding.push character
  | none =>
    if byte < 0x80 then decoding.pushReplacement.push (Char.ofNat byte.toNat)
    else decoding.pushReplacement

def isLead (byte : UInt8) : Bool := byte == 0x8E || byte == 0x8F || isWithin 0xA1 0xFE byte

def step : Decoding × Progress → UInt8 → Decoding × Progress
  | (decoding, .between), byte =>
    if byte < 0x80 then (decoding.push (Char.ofNat byte.toNat), .between)
    else if isLead byte then (decoding, .lead byte)
    else (decoding.pushReplacement, .between)
  | (decoding, .lead first), byte =>
    if first = 0x8E ∧ isWithin 0xA1 0xDF byte then
      (decoding.push (narrowKatakana 0xA1 byte), .between)
    else if first = 0x8F ∧ isWithin 0xA1 0xFE byte then (decoding, .extended byte)
    else (finish decoding (wardCell? Table.jis0208 0xA1 0xFE first byte) byte, .between)
  | (decoding, .extended second), byte =>
    (finish decoding (wardCell? Table.jis0212 0xA1 0xFE second byte) byte, .between)

/-- A character that the end cuts off is replaced. -/
def decode (bytes : List UInt8) : Decoding :=
  match bytes.foldl step (.start, .between) with
  | (decoding, .between) => decoding
  | (decoding, _) => decoding.pushReplacement

end SignOn.Charset.EucJp
