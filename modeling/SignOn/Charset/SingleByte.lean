import SignOn.Charset.Basic
import SignOn.Charset.Decoding
import SignOn.Charset.UpperHalf

/-
This file decodes the character sets that use one byte for a character.
-/

namespace SignOn.Charset

/-- The upper half of a character set that extends ASCII by one byte for each character. -/
def upperHalf? : Charset → Option (Array Nat)
  | .ibm866 => some UpperHalf.ibm866
  | .iso8859x2 => some UpperHalf.iso8859x2
  | .iso8859x3 => some UpperHalf.iso8859x3
  | .iso8859x4 => some UpperHalf.iso8859x4
  | .iso8859x5 => some UpperHalf.iso8859x5
  | .iso8859x6 => some UpperHalf.iso8859x6
  | .iso8859x7 => some UpperHalf.iso8859x7
  | .iso8859x8 => some UpperHalf.iso8859x8
  | .iso8859x8i => some UpperHalf.iso8859x8
  | .iso8859x10 => some UpperHalf.iso8859x10
  | .iso8859x13 => some UpperHalf.iso8859x13
  | .iso8859x14 => some UpperHalf.iso8859x14
  | .iso8859x15 => some UpperHalf.iso8859x15
  | .iso8859x16 => some UpperHalf.iso8859x16
  | .koi8r => some UpperHalf.koi8r
  | .koi8u => some UpperHalf.koi8u
  | .macintosh => some UpperHalf.macintosh
  | .windows874 => some UpperHalf.windows874
  | .windows1250 => some UpperHalf.windows1250
  | .windows1251 => some UpperHalf.windows1251
  | .windows1252 => some UpperHalf.windows1252
  | .windows1253 => some UpperHalf.windows1253
  | .windows1254 => some UpperHalf.windows1254
  | .windows1255 => some UpperHalf.windows1255
  | .windows1256 => some UpperHalf.windows1256
  | .windows1257 => some UpperHalf.windows1257
  | .windows1258 => some UpperHalf.windows1258
  | .xMacCyrillic => some UpperHalf.xMacCyrillic
  | _ => none

/-- A byte of the lower half is an ASCII character. -/
def singleByte? (upperHalf : Array Nat) (byte : UInt8) : Option Char :=
  if byte < 0x80 then some (Char.ofNat byte.toNat)
  else
    match upperHalf[byte.toNat - 0x80]? with
    | none => none
    | some code => if code = UpperHalf.unassigned then none else some (Char.ofNat code)

def decodeSingleBytes (upperHalf : Array Nat) (bytes : List UInt8) : Decoding :=
  bytes.foldl (fun decoding byte => decoding.pushOrReplace (singleByte? upperHalf byte)) .start

/-- The upper half is kept as it is in a private range of characters. -/
def userDefined (byte : UInt8) : Char :=
  if byte < 0x80 then Char.ofNat byte.toNat else Char.ofNat (0xF700 + byte.toNat)

def decodeUserDefined (bytes : List UInt8) : Decoding :=
  bytes.foldl (fun decoding byte => decoding.push (userDefined byte)) .start

end SignOn.Charset
