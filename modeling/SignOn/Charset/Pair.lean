import SignOn.Charset.Decoding
import SignOn.Charset.Rows
import SignOn.Charset.Table.Big5
import SignOn.Charset.Table.EucKr
import SignOn.Charset.Table.Jis0208

/-
This file decodes the character sets in which a character takes one byte or two.
-/

namespace SignOn.Charset

/-- A byte leads a pair or is read by itself, and only some pairs stand for characters. -/
structure PairSet where
  isLead : UInt8 → Bool
  single? : UInt8 → Option Char
  pair? : UInt8 → UInt8 → Option (List Char)

/-- What was decoded stands beside the lead byte that waits for its trail byte. -/
abbrev PairDecoding := Decoding × Option UInt8

namespace PairSet

/-- A byte of ASCII that ends a pair without a character is a character of its own. -/
def readTrail (set : PairSet) (decoding : Decoding) (lead trail : UInt8) : Decoding :=
  match set.pair? lead trail with
  | some characters => characters.foldl Decoding.push decoding
  | none =>
    if trail < 0x80 then decoding.pushReplacement.push (Char.ofNat trail.toNat)
    else decoding.pushReplacement

def step (set : PairSet) (progress : PairDecoding) (byte : UInt8) : PairDecoding :=
  match progress.2 with
  | some lead => (set.readTrail progress.1 lead byte, none)
  | none =>
    if set.isLead byte then (progress.1, some byte)
    else (progress.1.pushOrReplace (set.single? byte), none)

/-- A lead byte at the end has no partner. -/
def decode (set : PairSet) (bytes : List UInt8) : Decoding :=
  match bytes.foldl set.step (.start, none) with
  | (decoding, none) => decoding
  | (decoding, some _) => decoding.pushReplacement

end PairSet

def ascii? (byte : UInt8) : Option Char :=
  if byte < 0x80 then some (Char.ofNat byte.toNat) else none

/-- Four pairs stand for a letter with two marks, of which the second is a character of its own. -/
def big5Letter? (trail : UInt8) : Option (List Char) :=
  if trail = 0x62 then some ['\u00CA', '\u0304']
  else if trail = 0x64 then some ['\u00CA', '\u030C']
  else if trail = 0xA3 then some ['\u00EA', '\u0304']
  else if trail = 0xA5 then some ['\u00EA', '\u030C']
  else none

def big5Pair? (lead trail : UInt8) : Option (List Char) :=
  match if lead = 0x88 then big5Letter? trail else none with
  | some letter => some letter
  | none =>
    if lead < 0x87 then none
    else do
      let column ← column? 0xA1 0xFE trail
      return [← cell? Table.big5 (lead.toNat - 0x87) column]

def PairSet.big5 : PairSet := ⟨isWithin 0x81 0xFE, ascii?, big5Pair?⟩

def eucKrPair? (lead trail : UInt8) : Option (List Char) :=
  if isWithin 0x41 0xFE trail then
    (cell? Table.eucKr (lead.toNat - 0x81) (trail.toNat - 0x41)).map ([·])
  else none

def PairSet.eucKr : PairSet := ⟨isWithin 0x81 0xFE, ascii?, eucKrPair?⟩

/-- Wards from the ninety-fifth on are kept private for users, up to the first one of a vendor. -/
def shiftJisCell? (pointer : Nat) : Option Char :=
  if 8836 ≤ pointer ∧ pointer ≤ 10715 then some (Char.ofNat (0xE000 + (pointer - 8836)))
  else cell? Table.jis0208 (pointer / 94) (pointer % 94)

/-- The lead bytes lie around the stretch of narrow forms, and each leads two wards. -/
def shiftJisPair? (lead trail : UInt8) : Option (List Char) := do
  let column ← column? 0x80 0xFC trail
  let row := lead.toNat - if lead < 0xA0 then 0x81 else 0xC1
  return [← shiftJisCell? (row * 188 + column)]

def shiftJisSingle? (byte : UInt8) : Option Char :=
  if byte ≤ 0x80 then some (Char.ofNat byte.toNat)
  else if isWithin 0xA1 0xDF byte then some (narrowKatakana 0xA1 byte)
  else none

def PairSet.shiftJis : PairSet :=
  ⟨fun byte => isWithin 0x81 0x9F byte || isWithin 0xE0 0xFC byte, shiftJisSingle?, shiftJisPair?⟩

end SignOn.Charset
