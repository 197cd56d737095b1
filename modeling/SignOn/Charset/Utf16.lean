import SignOn.Charset.Decoding

/-
This file decodes text that uses two bytes for a unit and one or two units for a character.
-/

namespace SignOn.Charset

/-- The order in which the two bytes of a unit come. -/
inductive ByteOrder
  | bigEndian
  | littleEndian
  deriving DecidableEq, Repr

def ByteOrder.unit : ByteOrder → UInt8 → UInt8 → Nat
  | .bigEndian, first, second => first.toNat * 256 + second.toNat
  | .littleEndian, first, second => second.toNat * 256 + first.toNat

def isLeadUnit (unit : Nat) : Bool := 0xD800 ≤ unit && unit < 0xDC00

def isTrailUnit (unit : Nat) : Bool := 0xDC00 ≤ unit && unit < 0xE000

/-- A unit that begins no pair is a character unless it could only end one. -/
def pushUnit (decoding : Decoding) (unit : Nat) : Decoding :=
  if isTrailUnit unit then decoding.pushReplacement else decoding.push (Char.ofNat unit)

/-- A leading unit waits for its partner, and without one it is replaced. -/
def decodeUnits (order : ByteOrder) (decoding : Decoding) (lead : Option Nat) :
    List UInt8 → Decoding
  | first :: second :: rest =>
    let unit := order.unit first second
    match lead with
    | none =>
      if isLeadUnit unit then decodeUnits order decoding (some unit) rest
      else decodeUnits order (pushUnit decoding unit) none rest
    | some high =>
      if isTrailUnit unit then
        let code := 0x10000 + (high - 0xD800) * 0x400 + (unit - 0xDC00)
        decodeUnits order (decoding.push (Char.ofNat code)) none rest
      else if isLeadUnit unit then decodeUnits order decoding.pushReplacement (some unit) rest
      else decodeUnits order (pushUnit decoding.pushReplacement unit) none rest
  | [_] => decoding.pushReplacement
  | [] => if lead.isSome then decoding.pushReplacement else decoding

def decodeUtf16 (order : ByteOrder) (bytes : List UInt8) : Decoding :=
  decodeUnits order .start none bytes

end SignOn.Charset
