/-
This file writes text as UTF-8 bytes and reads bytes back, replacing what is no UTF-8.
-/

namespace SignOn.Text.Utf8

/-- The character that stands for bytes without a meaning. -/
def replacement : Char := '\uFFFD'

def encode (characters : List Char) : List UInt8 :=
  characters.flatMap String.utf8EncodeChar

/-- A character whose first bytes are read still waits for bytes in a range. -/
structure Unfinished where
  codePoint : Nat
  remaining : Nat
  lowest : Nat
  highest : Nat
  deriving DecidableEq, Repr

/-- Text is read from the left, so the newest character comes first here. -/
structure Reading where
  newestFirst : List Char
  replaced : Bool
  unfinished : Option Unfinished
  deriving DecidableEq, Repr

namespace Reading

def start : Reading := ⟨[], false, none⟩

def push (reading : Reading) (character : Char) : Reading :=
  { reading with newestFirst := character :: reading.newestFirst, unfinished := none }

def pushReplacement (reading : Reading) : Reading :=
  ⟨replacement :: reading.newestFirst, true, none⟩

def await (reading : Reading) (unfinished : Unfinished) : Reading :=
  { reading with unfinished := some unfinished }

/-- The first byte of a character tells how many follow and bounds the second one. -/
def lead (reading : Reading) (byte : Nat) : Reading :=
  if byte < 0x80 then reading.push (Char.ofNat byte)
  else if byte < 0xC2 then reading.pushReplacement
  else if byte < 0xE0 then reading.await ⟨byte - 0xC0, 1, 0x80, 0xBF⟩
  else if byte = 0xE0 then reading.await ⟨0, 2, 0xA0, 0xBF⟩
  else if byte = 0xED then reading.await ⟨0xD, 2, 0x80, 0x9F⟩
  else if byte < 0xF0 then reading.await ⟨byte - 0xE0, 2, 0x80, 0xBF⟩
  else if byte = 0xF0 then reading.await ⟨0, 3, 0x90, 0xBF⟩
  else if byte < 0xF4 then reading.await ⟨byte - 0xF0, 3, 0x80, 0xBF⟩
  else if byte = 0xF4 then reading.await ⟨4, 3, 0x80, 0x8F⟩
  else reading.pushReplacement

/-- A byte outside the awaited range closes the character before it and is read again as a first byte. -/
def step (reading : Reading) (byte : UInt8) : Reading :=
  match reading.unfinished with
  | none => reading.lead byte.toNat
  | some unfinished =>
    if unfinished.lowest ≤ byte.toNat ∧ byte.toNat ≤ unfinished.highest then
      let codePoint := unfinished.codePoint * 64 + (byte.toNat - 0x80)
      if unfinished.remaining ≤ 1 then reading.push (Char.ofNat codePoint)
      else reading.await ⟨codePoint, unfinished.remaining - 1, 0x80, 0xBF⟩
    else reading.pushReplacement.lead byte.toNat

/-- Bytes that end inside a character leave one replacement. -/
def finish (reading : Reading) : Reading :=
  match reading.unfinished with
  | none => reading
  | some _ => reading.pushReplacement

def characters (reading : Reading) : List Char := reading.newestFirst.reverse

end Reading

def read (bytes : List UInt8) : Reading :=
  (bytes.foldl Reading.step .start).finish

/-- Every longest start of a character that breaks off becomes one replacement. -/
def decode (bytes : List UInt8) : List Char := (read bytes).characters

end SignOn.Text.Utf8
