import SignOn.Text.Utf8

/-
This file looks characters up in tables that have a row of cells for each lead byte.
-/

namespace SignOn.Charset

open SignOn.Text

def isWithin (low high byte : UInt8) : Bool := low ≤ byte && byte ≤ high

/-- Cells without a character are filled with the replacement character or lie behind the end of a row. -/
def cell? (rows : Array String) (row column : Nat) : Option Char :=
  match rows[row]? with
  | none => none
  | some cells => (cells.toList[column]?).filter (· != Utf8.replacement)

/-- Trail bytes lie in two stretches, and the columns of the second follow those of the first. -/
def column? (low high byte : UInt8) : Option Nat :=
  if isWithin 0x40 0x7E byte then some (byte.toNat - 0x40)
  else if isWithin low high byte then some (byte.toNat - low.toNat + 0x3F)
  else none

/-- Two bytes from the same stretch name a ward and a cell in it. -/
def wardCell? (rows : Array String) (low high first second : UInt8) : Option Char :=
  if isWithin low high first && isWithin low high second then
    cell? rows (first.toNat - low.toNat) (second.toNat - low.toNat)
  else none

/-- The narrow forms of Japanese characters are a stretch of bytes in every set that has them. -/
def narrowKatakana (first byte : UInt8) : Char :=
  Char.ofNat (0xFF61 + (byte.toNat - first.toNat))

end SignOn.Charset
