import SignOn.Charset.Decoding
import SignOn.Charset.Rows
import SignOn.Charset.Table.Gb18030
import SignOn.Charset.Table.Gbk

/-
This file decodes gb18030, in which a character takes one, two or four bytes.
-/

namespace SignOn.Charset.Gb18030

/-- How many bytes of a character were read. -/
inductive Progress
  | between
  | one (first : UInt8)
  | two (first second : UInt8)
  | three (first second third : UInt8)
  deriving DecidableEq, Repr

/-- Three blocks of pairs are kept private for users, one behind the other. -/
def privatePair? (lead trail : UInt8) : Option Char :=
  if isWithin 0xAA 0xAF lead && isWithin 0xA1 0xFE trail then
    some (Char.ofNat (0xE000 + (lead.toNat - 0xAA) * 94 + (trail.toNat - 0xA1)))
  else if isWithin 0xF8 0xFE lead && isWithin 0xA1 0xFE trail then
    some (Char.ofNat (0xE234 + (lead.toNat - 0xF8) * 94 + (trail.toNat - 0xA1)))
  else none

/-- The last private block has ninety-six columns. -/
def lowPrivatePair? (lead : UInt8) (column : Nat) : Option Char :=
  if isWithin 0xA1 0xA7 lead && column < 96 then
    some (Char.ofNat (0xE4C6 + (lead.toNat - 0xA1) * 96 + column))
  else none

/-- What the table holds counts before the private blocks. -/
def pair? (lead trail : UInt8) : Option Char := do
  let column ← column? 0x80 0xFE trail
  match cell? Table.gbk (lead.toNat - 0x81) column with
  | some character => some character
  | none => (privatePair? lead trail).or (lowPrivatePair? lead column)

/-- The last stretch that begins at a pointer or before it holds the character. -/
def stretchCharacter (pointer : Nat) : Option Char :=
  (Table.gb18030Stretches.toList.reverse.find? (·.1 ≤ pointer)).map fun stretch =>
    Char.ofNat (stretch.2 + (pointer - stretch.1))

/-- One pointer leads to a private character, and those from 189000 on lead beyond sixteen bits. -/
def pointerCharacter? (pointer : Nat) : Option Char :=
  if pointer = 7457 then some (Char.ofNat 0xE7C7)
  else if pointer ≤ 39419 then stretchCharacter pointer
  else if 189000 ≤ pointer ∧ pointer ≤ 1237575 then some (Char.ofNat (0x10000 + (pointer - 189000)))
  else none

def isDigit (byte : UInt8) : Bool := isWithin 0x30 0x39 byte

/-- The bytes of a character count in turn to 126 and to ten. -/
def quadruple? (first second third fourth : UInt8) : Option Char :=
  pointerCharacter?
    ((((first.toNat - 0x81) * 10 + (second.toNat - 0x30)) * 126 + (third.toNat - 0x81)) * 10 +
      (fourth.toNat - 0x30))

def begin (decoding : Decoding) (byte : UInt8) : Decoding × Progress :=
  if byte < 0x80 then (decoding.push (Char.ofNat byte.toNat), .between)
  else if byte = 0x80 then (decoding.push '€', .between)
  else if byte = 0xFF then (decoding.pushReplacement, .between)
  else (decoding, .one byte)

/-- A byte of ASCII that ends no pair is read again. -/
def endPair (decoding : Decoding) (lead trail : UInt8) : Decoding × Progress :=
  match pair? lead trail with
  | some character => (decoding.push character, .between)
  | none =>
    if trail < 0x80 then begin decoding.pushReplacement trail
    else (decoding.pushReplacement, .between)

/-- When four bytes do not fit together, all but the first are read again. -/
def step : Decoding × Progress → UInt8 → Decoding × Progress
  | (decoding, .between), byte => begin decoding byte
  | (decoding, .one first), byte =>
    if isDigit byte then (decoding, .two first byte) else endPair decoding first byte
  | (decoding, .two first second), byte =>
    if isWithin 0x81 0xFE byte then (decoding, .three first second byte)
    else begin (decoding.pushReplacement.push (Char.ofNat second.toNat)) byte
  | (decoding, .three first second third), byte =>
    if isDigit byte then (decoding.pushOrReplace (quadruple? first second third byte), .between)
    else endPair (decoding.pushReplacement.push (Char.ofNat second.toNat)) third byte

/-- A character that the end cuts off is replaced. -/
def decode (bytes : List UInt8) : Decoding :=
  match bytes.foldl step (.start, .between) with
  | (decoding, .between) => decoding
  | (decoding, _) => decoding.pushReplacement

end SignOn.Charset.Gb18030
